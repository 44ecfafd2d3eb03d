/-
Socket addresses: an internet address of either version, and a port.

Addresses are read in their standard text form and written in their shortest
one.  In version 6 one run of zero groups may be left out, and the last two
groups may be written as an address of version 4.
-/
import MarketSearch.Numeral

namespace MarketSearch

structure Ipv4 where
  a : UInt8
  b : UInt8
  c : UInt8
  d : UInt8
deriving DecidableEq

/-- Eight groups of 16 bits. -/
structure Ipv6 where
  groups : List UInt16
  length_groups : groups.length = 8
deriving DecidableEq

/-- An address and a port; version 6 also has a scope. -/
inductive SocketAddress where
  | v4 (address : Ipv4) (port : UInt16)
  | v6 (address : Ipv6) (scope : UInt32) (port : UInt16)
deriving DecidableEq

/-! ## Writing -/

namespace Ipv4

def chars (x : Ipv4) : List Char :=
  Numeral.digits x.a.toNat ++ '.' :: (Numeral.digits x.b.toNat ++ '.' ::
    (Numeral.digits x.c.toNat ++ '.' :: Numeral.digits x.d.toNat))

/-- The two groups that the address takes in one of version 6. -/
def groups (x : Ipv4) : List UInt16 :=
  [UInt16.ofNat (x.a.toNat * 256 + x.b.toNat), UInt16.ofNat (x.c.toNat * 256 + x.d.toNat)]

end Ipv4

namespace Ipv6

/-- The address of version 4 that is mapped into version 6. -/
def mapped? (x : Ipv6) : Option Ipv4 :=
  match x.groups with
  | [0, 0, 0, 0, 0, 0xFFFF, g, h] =>
    .some ⟨UInt8.ofNat (g.toNat / 256), UInt8.ofNat (g.toNat % 256), UInt8.ofNat (h.toNat / 256),
      UInt8.ofNat (h.toNat % 256)⟩
  | _ => .none

/-- Groups with colons between them. -/
def joined : List UInt16 → List Char
  | [] => []
  | [g] => Numeral.hex g.toNat
  | g :: gs => Numeral.hex g.toNat ++ ':' :: joined gs

/-- The zeros that groups begin with. -/
def zeros (gs : List UInt16) : Nat := (gs.takeWhile (· == 0)).length

/-- Where the longest run of zeros begins and how long it is, the first of equally long ones. -/
def longestZeros : List UInt16 → Nat × Nat
  | [] => (0, 0)
  | g :: gs =>
    let here := zeros (g :: gs)
    let later := longestZeros gs
    if later.2 ≤ here then (0, here) else (later.1 + 1, later.2)

def chars (x : Ipv6) : List Char :=
  match x.mapped? with
  | .some y => [':', ':', 'f', 'f', 'f', 'f', ':'] ++ y.chars
  | .none =>
    let (start, size) := longestZeros x.groups
    if size < 2 then joined x.groups
    else joined (x.groups.take start) ++ [':', ':'] ++ joined (x.groups.drop (start + size))

end Ipv6

namespace SocketAddress

def chars : SocketAddress → List Char
  | .v4 x port => x.chars ++ ':' :: Numeral.digits port.toNat
  | .v6 x scope port =>
    '[' :: (x.chars ++ (if scope = 0 then [] else '%' :: Numeral.digits scope.toNat) ++
      ']' :: ':' :: Numeral.digits port.toNat)

def text (x : SocketAddress) : String := String.ofList x.chars

def port : SocketAddress → UInt16
  | .v4 _ p => p
  | .v6 _ _ p => p

def isV6 : SocketAddress → Bool
  | .v4 .. => false
  | .v6 .. => true

/-! ## Reading -/

/-- The digits at the front of a text, and the rest. -/
def spanDigits (base : Nat) (cs : List Char) : List Char × List Char :=
  cs.span fun c => (Numeral.digitValue? base c).isSome

/-- A number below `bound` at the front of a text, of so many digits at most. -/
def readNumber (base bound maxDigits : Nat) (cs : List Char) : Option (Nat × List Char) :=
  let (ds, rest) := spanDigits base cs
  if maxDigits < ds.length then .none
  else ((Numeral.value? base ds).filter (· < bound)).map fun n => (n, rest)

/-- A number of any length. -/
def readLong (bound : Nat) (cs : List Char) : Option (Nat × List Char) :=
  readNumber 10 bound cs.length cs

/-- A part of an address of version 4: below 256, and no zero before other digits. -/
def readOctet (cs : List Char) : Option (UInt8 × List Char) :=
  match spanDigits 10 cs with
  | ('0' :: _ :: _, _) => .none
  | _ => (readNumber 10 256 3 cs).map fun (n, r) => (UInt8.ofNat n, r)

def readMark (mark : Char) : List Char → Option (List Char)
  | c :: cs => if c = mark then .some cs else .none
  | [] => .none

def readV4 (cs : List Char) : Option (Ipv4 × List Char) := do
  let (a, r) ← readOctet cs
  let (b, r) ← readOctet (← readMark '.' r)
  let (c, r) ← readOctet (← readMark '.' r)
  let (d, r) ← readOctet (← readMark '.' r)
  return (⟨a, b, c, d⟩, r)

/-- One group, after a colon unless it is the first. -/
def readAfterColon {α : Type} (first : Bool) (read : List Char → Option (α × List Char))
    (cs : List Char) : Option (α × List Char) :=
  if first then read cs else (readMark ':' cs).bind read

def readGroup (cs : List Char) : Option (UInt16 × List Char) :=
  (readNumber 16 65536 4 cs).map fun (n, r) => (UInt16.ofNat n, r)

/-- Groups at the front of a text, `limit` at most, whether the last two were an address of version
4, and the rest. -/
def readGroups (first : Bool) : (limit : Nat) → List Char → List UInt16 × Bool × List Char
  | 0, cs => ([], false, cs)
  | limit + 1, cs =>
    match (if limit = 0 then .none else readAfterColon first readV4 cs) with
    | .some (x, r) => (x.groups, true, r)
    | .none =>
      match readAfterColon first readGroup cs with
      | .some (g, r) =>
        let (gs, isV4, r) := readGroups false limit r
        (g :: gs, isV4, r)
      | .none => ([], false, cs)

/-- Eight groups from those before and those after a gap. -/
def fill (front back : List UInt16) : List UInt16 :=
  front ++ List.replicate (8 - front.length - back.length) 0 ++ back

def ofGroups? (gs : List UInt16) : Option Ipv6 :=
  if h : gs.length = 8 then .some ⟨gs, h⟩ else .none

def readV6 (cs : List Char) : Option (Ipv6 × List Char) :=
  let (front, isV4, r) := readGroups true 8 cs
  if front.length = 8 then (ofGroups? front).map fun x => (x, r)
  else if isV4 then .none
  else do
    let r ← readMark ':' r
    let r ← readMark ':' r
    let (back, _, r) := readGroups true (7 - front.length) r
    return (← ofGroups? (fill front back), r)

def readPort (cs : List Char) : Option (UInt16 × List Char) := do
  let (n, r) ← readLong 65536 (← readMark ':' cs)
  return (UInt16.ofNat n, r)

/-- A scope after its mark, or none. -/
def readScope (cs : List Char) : UInt32 × List Char :=
  match (readMark '%' cs).bind (readLong (Nat.pow 2 32)) with
  | .some (n, r) => (UInt32.ofNat n, r)
  | .none => (0, cs)

def readSocketV4 (cs : List Char) : Option (SocketAddress × List Char) := do
  let (x, r) ← readV4 cs
  let (p, r) ← readPort r
  return (.v4 x p, r)

def readSocketV6 (cs : List Char) : Option (SocketAddress × List Char) := do
  let (x, r) ← readV6 (← readMark '[' cs)
  let (scope, r) := readScope r
  let (p, r) ← readPort (← readMark ']' r)
  return (.v6 x scope p, r)

/-- Reads a text that is an address and nothing else. -/
def ofChars? (cs : List Char) : Option SocketAddress :=
  match (readSocketV4 cs).or (readSocketV6 cs) with
  | .some (x, []) => .some x
  | _ => .none

end SocketAddress
end MarketSearch
