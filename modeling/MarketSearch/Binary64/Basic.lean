/-
Binary floating-point numbers of 64 bits, computed exactly.

A finite number is a significand times a power of two; `scaled` counts it in
units of the least positive one, `2^-1074`.  Every operation is its exact
result, a quotient of natural numbers, rounded once by `nearest`: to the
closest number, a tie to the even significand, and to infinity from the
midpoint past the largest one.
-/
namespace MarketSearch

/-- A number, an infinity, or no number at all.  A finite one is
`± significand * 2^shift * 2^-1074`. -/
inductive Binary64 where
  | finite (negative : Bool) (significand shift : Nat)
  | infinite (negative : Bool)
  | nan
deriving DecidableEq, Repr

namespace Binary64

/-- The number of least units in one. -/
def unit : Nat := Nat.pow 2 1074

def zero : Binary64 := .finite false 0 0

/-! ## Rounding -/

/-- The natural number closest to `a / d`, of two equally close ones the even one. -/
def nearestEven (a d : Nat) : Nat :=
  let q := a / d
  let r := a % d
  if 2 * r < d then q
  else if d < 2 * r then q + 1
  else if q % 2 = 0 then q else q + 1

/-- The number closest to `a / d` least units, with the sign given. -/
def nearestScaled (negative : Bool) (a d : Nat) : Binary64 :=
  let p := (a / d).log2 - 52
  let m := nearestEven a (d * Nat.pow 2 p)
  let (m, p) := if m = Nat.pow 2 53 then (Nat.pow 2 52, p + 1) else (m, p)
  if 2045 < p then .infinite negative else .finite negative m p

/-- The number closest to `a / d`, with the sign given. -/
def nearest (negative : Bool) (a d : Nat) : Binary64 := nearestScaled negative (a * unit) d

def ofNat (n : Nat) : Binary64 := nearest false n 1

def ofInt : Int → Binary64
  | .ofNat n => nearest false n 1
  | .negSucc n => nearest true (n + 1) 1

/-! ## Parts -/

/-- The magnitude of a finite number in least units. -/
def scaled : Binary64 → Nat
  | .finite _ m p => m * Nat.pow 2 p
  | _ => 0

def isNegative : Binary64 → Bool
  | .finite s _ _ => s
  | .infinite s => s
  | .nan => false

def isFinite : Binary64 → Bool
  | .finite .. => true
  | _ => false

/-- Whether the number is a zero of either sign. -/
def isZero : Binary64 → Bool
  | .finite _ m _ => m == 0
  | _ => false

def neg : Binary64 → Binary64
  | .finite s m p => .finite (!s) m p
  | .infinite s => .infinite (!s)
  | .nan => .nan

/-! ## Arithmetic on numbers that are not negative -/

/-- The sum of two finite magnitudes. -/
def add (x y : Binary64) : Binary64 := nearestScaled false (x.scaled + y.scaled) 1

/-- The product of two finite magnitudes; infinite if either is. -/
def mul (x y : Binary64) : Binary64 :=
  if x.isFinite && y.isFinite then nearestScaled false (x.scaled * y.scaled) unit
  else .infinite false

/-- The quotient of two finite magnitudes, the second not zero; infinite if the first is. -/
def div (x y : Binary64) : Binary64 :=
  if x.isFinite then nearestScaled false (x.scaled * unit) y.scaled else .infinite false

/-- The magnitude rounded to a whole number, a half upwards. -/
def roundToNat (x : Binary64) : Nat := (2 * x.scaled + unit) / (2 * unit)

/-! ## Bits -/

def ofBits (bits : Nat) : Binary64 :=
  let s := bits / Nat.pow 2 63 % 2 == 1
  let e := bits / Nat.pow 2 52 % Nat.pow 2 11
  let f := bits % Nat.pow 2 52
  if e = 2047 then (if f = 0 then .infinite s else .nan)
  else if e = 0 then .finite s f 0
  else .finite s (Nat.pow 2 52 + f) (e - 1)

def toBits : Binary64 → Nat
  | .finite s m p =>
    (if s then Nat.pow 2 63 else 0) +
      (if m < Nat.pow 2 52 then m else (p + 1) * Nat.pow 2 52 + (m - Nat.pow 2 52))
  | .infinite s => (if s then Nat.pow 2 63 else 0) + 2047 * Nat.pow 2 52
  | .nan => 2047 * Nat.pow 2 52 + Nat.pow 2 51

end Binary64
end MarketSearch
