/-
Base64 in the alphabet for addresses, without padding.

Four symbols carry three bytes; a last group of two or three symbols carries
one or two, and the bits it has beyond them must be zero.  Reading says what is
wrong first: a foreign last symbol that would make the length impossible, then
faults in the groups before the last, then those in the last.
-/
import MarketSearch.Numeral
import MarketSearch.Text.Utf8

namespace MarketSearch
namespace Base64

inductive Fault where
  | symbol (byte offset : Nat)
  | length (count : Nat)
  | lastSymbol (byte offset : Nat)
  | padding
deriving DecidableEq

def Fault.message : Fault → String
  | .symbol b i => "Invalid symbol " ++ Numeral.text b ++ ", offset " ++ Numeral.text i ++ "."
  | .length n => "Invalid input length: " ++ Numeral.text n
  | .lastSymbol b i =>
    "Invalid last symbol " ++ Numeral.text b ++ ", offset " ++ Numeral.text i ++ "."
  | .padding => "Invalid padding"

/-! ## Symbols -/

/-- The symbol of a value below 64. -/
def symbol (v : Nat) : UInt8 :=
  UInt8.ofNat <|
    if v < 26 then 65 + v
    else if v < 52 then 71 + v
    else if v < 62 then v - 4
    else if v = 62 then 45
    else 95

def value? (b : UInt8) : Option Nat :=
  let n := b.toNat
  if 65 ≤ n ∧ n ≤ 90 then .some (n - 65)
  else if 97 ≤ n ∧ n ≤ 122 then .some (n - 71)
  else if 48 ≤ n ∧ n ≤ 57 then .some (n + 4)
  else if n = 45 then .some 62
  else if n = 95 then .some 63
  else .none

def isPad (b : UInt8) : Bool := b == 61

/-! ## Writing -/

def encode : Bytes → Bytes
  | a :: b :: c :: rest =>
    let n := (a.toNat * 256 + b.toNat) * 256 + c.toNat
    symbol (n / 262144) :: symbol (n / 4096 % 64) :: symbol (n / 64 % 64) :: symbol (n % 64) ::
      encode rest
  | [a, b] =>
    let n := (a.toNat * 256 + b.toNat) * 4
    [symbol (n / 4096), symbol (n / 64 % 64), symbol (n % 64)]
  | [a] =>
    let n := a.toNat * 16
    [symbol (n / 64), symbol (n % 64)]
  | [] => []

/-! ## Reading -/

/-- The value of a symbol at an offset. -/
def valueAt (offset : Nat) (b : UInt8) : Except Fault Nat :=
  match value? b with
  | .some v => .ok v
  | .none => .error (.symbol b.toNat offset)

/-- Groups of four symbols, the first at `offset`. -/
def decodeGroups (offset : Nat) : Bytes → Except Fault Bytes
  | a :: b :: c :: d :: rest => do
    let a ← valueAt offset a
    let b ← valueAt (offset + 1) b
    let c ← valueAt (offset + 2) c
    let d ← valueAt (offset + 3) d
    let n := ((a * 64 + b) * 64 + c) * 64 + d
    let bytes ← decodeGroups (offset + 4) rest
    return UInt8.ofNat (n / 65536) :: UInt8.ofNat (n / 256 % 256) :: UInt8.ofNat (n % 256) :: bytes
  | _ => .ok []

/-- The values in the last group, `i` of whose bytes have been read, and the offset in the group of
the first padding byte.  Padding may follow two symbols at the earliest, and nothing but padding
may follow it. -/
def readLast (offset i : Nat) (pad : Option Nat) : Bytes → Except Fault (List Nat × Option Nat)
  | [] => .ok ([], pad)
  | b :: bs =>
    if isPad b then
      if i < 2 then .error (.symbol b.toNat (offset + i))
      else readLast offset (i + 1) (pad.or (.some i)) bs
    else
      match pad with
      | .some p => .error (.symbol 61 (offset + p))
      | .none => do
        let v ← valueAt (offset + i) b
        let (vs, pad) ← readLast offset (i + 1) .none bs
        return (v :: vs, pad)

/-- Refuses bits beyond the last byte. -/
def noBitsLeft (left offset last : Nat) (bytes : Bytes) : Except Fault Bytes :=
  if left = 0 then .ok bytes else .error (.lastSymbol (symbol last).toNat offset)

/-- The bytes of the last group's values. -/
def lastBytes (offset : Nat) : List Nat → Except Fault Bytes
  | [a, b] => noBitsLeft (b % 16) (offset + 1) b [UInt8.ofNat (a * 4 + b / 16)]
  | [a, b, c] =>
    noBitsLeft (c % 4) (offset + 2) c
      [UInt8.ofNat (a * 4 + b / 16), UInt8.ofNat (b % 16 * 16 + c / 4)]
  | [a, b, c, d] =>
    .ok
      [UInt8.ofNat (a * 4 + b / 16), UInt8.ofNat (b % 16 * 16 + c / 4),
       UInt8.ofNat (c % 4 * 64 + d)]
  | vs => .error (.length (offset + vs.length))

def decodeLast (offset : Nat) (bs : Bytes) : Except Fault Bytes := do
  let (vs, pad) ← readLast offset 0 .none bs
  if vs.length < 2 then .error (.length (offset + vs.length))
  else if pad.isSome then .error .padding
  else lastBytes offset vs

/-- How many bytes come before the last group. -/
def beforeLast (size : Nat) : Nat := (size - 1) / 4 * 4

def decode (bs : Bytes) : Except Fault Bytes :=
  match bs.getLast? with
  | .none => .ok []
  | .some last =>
    if bs.length % 4 = 1 ∧ ¬isPad last ∧ (value? last).isNone then
      .error (.symbol last.toNat (bs.length - 1))
    else do
      let n := beforeLast bs.length
      let front ← decodeGroups 0 (bs.take n)
      let back ← decodeLast n (bs.drop n)
      return front ++ back

end Base64
end MarketSearch
