/-
UTF-8: texts as bytes, and bytes read back as texts.

A character takes one to four bytes by its size.  Reading accepts the shortest
form only and no surrogates.  Bytes that begin no character are taken in
maximal pieces: as many as could still have begun one.  A strict reader
refuses them, a lenient one puts the replacement character for each piece.
-/
namespace MarketSearch

abbrev Bytes := List UInt8

namespace Utf8

/-! ## Writing -/

/-- A byte that follows the first one, with six bits of the character. -/
def tailByte (n : Nat) : UInt8 := UInt8.ofNat (0x80 + n % 64)

def encodeChar (c : Char) : Bytes :=
  let n := c.toNat
  if n < 0x80 then [UInt8.ofNat n]
  else if n < 0x800 then [UInt8.ofNat (0xC0 + n / 64), tailByte n]
  else if n < 0x10000 then [UInt8.ofNat (0xE0 + n / 4096), tailByte (n / 64), tailByte n]
  else
    [UInt8.ofNat (0xF0 + n / 262144), tailByte (n / 4096), tailByte (n / 64), tailByte n]

def encode (cs : List Char) : Bytes := cs.flatMap encodeChar

def ofText (s : String) : Bytes := encode s.toList

/-! ## Reading -/

/-- What the first byte of a longer form says: the bits it carries, the range of the second byte,
and how many bytes follow that one. -/
structure Lead where
  bits : Nat
  low : Nat
  high : Nat
  more : Nat

def lead? (b : Nat) : Option Lead :=
  if 0xC2 ≤ b ∧ b ≤ 0xDF then .some ⟨b - 0xC0, 0x80, 0xBF, 0⟩
  else if b = 0xE0 then .some ⟨0, 0xA0, 0xBF, 1⟩
  else if b = 0xED then .some ⟨0xD, 0x80, 0x9F, 1⟩
  else if 0xE1 ≤ b ∧ b ≤ 0xEF then .some ⟨b - 0xE0, 0x80, 0xBF, 1⟩
  else if b = 0xF0 then .some ⟨0, 0x90, 0xBF, 2⟩
  else if 0xF1 ≤ b ∧ b ≤ 0xF3 then .some ⟨b - 0xF0, 0x80, 0xBF, 2⟩
  else if b = 0xF4 then .some ⟨4, 0x80, 0x8F, 2⟩
  else .none

/-- Reads `more + 1` bytes onto the bits read so far, the first of them between `low` and `high`:
the character, if there is one, and the bytes left. -/
def readTail (bits low high : Nat) : (more : Nat) → Bytes → Option Char × Bytes
  | _, [] => (.none, [])
  | more, b :: bs =>
    if b.toNat < low ∨ high < b.toNat then (.none, b :: bs)
    else
      let bits := bits * 64 + b.toNat % 64
      match more with
      | 0 => (.some (Char.ofNat bits), bs)
      | more + 1 => readTail bits 0x80 0xBF more bs

theorem length_readTail_le (bits low high more : Nat) (bs : Bytes) :
    (readTail bits low high more bs).2.length ≤ bs.length := by
  induction bs generalizing bits low high more with
  | nil => simp [readTail]
  | cons b bs ih =>
    unfold readTail
    split
    · simp
    · cases more with
      | zero => simp
      | succ more => exact Nat.le_succ_of_le (ih _ _ _ _)

/-- The first character of some bytes or the first piece that is none, and the bytes left. -/
def readChar (b : UInt8) (bs : Bytes) : Option Char × Bytes :=
  if b.toNat < 0x80 then (.some (Char.ofNat b.toNat), bs)
  else
    match lead? b.toNat with
    | .some l => readTail l.bits l.low l.high l.more bs
    | .none => (.none, bs)

theorem length_readChar_le (b : UInt8) (bs : Bytes) : (readChar b bs).2.length ≤ bs.length := by
  unfold readChar
  split
  · simp
  · split
    · exact length_readTail_le ..
    · simp

/-- The characters of some bytes, none for each piece that is no character. -/
def pieces : Bytes → List (Option Char)
  | [] => []
  | b :: bs =>
    let r := readChar b bs
    r.1 :: pieces r.2
termination_by bs => bs.length
decreasing_by exact Nat.lt_succ_of_le (length_readChar_le b bs)

/-- Reads bytes that are characters throughout. -/
def decode? (bs : Bytes) : Option (List Char) := (pieces bs).mapM id

/-- Reads any bytes. -/
def decodeLossy (bs : Bytes) : List Char := (pieces bs).map (·.getD '\ufffd')

def toTextLossy (bs : Bytes) : String := String.ofList (decodeLossy bs)

end Utf8
end MarketSearch
