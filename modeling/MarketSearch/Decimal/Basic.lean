/-
Decimal numbers of bounded size: a sign, a mantissa below `2^96`, and a scale
of at most 28 digits after the point.

Trailing zeros belong to the value as written, so `1.50` and `1.5` are
different decimals of equal value; `compare` orders by value and `normalize`
drops the difference.  A zero never has a sign.
-/
import MarketSearch.Numeral

namespace MarketSearch

/-- `± mantissa / 10^scale`. -/
structure Decimal where
  negative : Bool
  mantissa : Nat
  scale : Nat
  mantissa_lt : mantissa < Nat.pow 2 96
  scale_le : scale ≤ 28
deriving DecidableEq

namespace Decimal

def mantissaLimit : Nat := Nat.pow 2 96

def maxScale : Nat := 28

/-- The decimal with these parts, if they are in range; a zero takes no sign. -/
def ofParts? (negative : Bool) (mantissa scale : Nat) : Option Decimal :=
  if h : mantissa < Nat.pow 2 96 ∧ scale ≤ 28 then
    .some ⟨negative && mantissa != 0, mantissa, scale, h.1, h.2⟩
  else .none

def zero : Decimal := ⟨false, 0, 0, by decide, by decide⟩

def hundred : Decimal := ⟨false, 100, 0, by decide, by decide⟩

def minusOne : Decimal := ⟨true, 1, 0, by decide, by decide⟩

def isZero (d : Decimal) : Bool := d.mantissa == 0

/-- Below zero. -/
def isNegative (d : Decimal) : Bool := d.negative && !d.isZero

/-! ## Value -/

/-- The value in units of `10^-28`, the finest there is. -/
def units (d : Decimal) : Int :=
  let n : Int := d.mantissa * Nat.pow 10 (28 - d.scale)
  if d.negative then -n else n

/-- The order of the values, whatever the scales. -/
def compare (a b : Decimal) : Ordering := Ord.compare a.units b.units

/-! ## Normal form -/

/-- Drops zeros at the end of a mantissa, at most as many as the scale has digits. -/
def dropZeros (mantissa : Nat) : Nat → Nat × Nat
  | 0 => (mantissa, 0)
  | s + 1 => if mantissa % 10 = 0 then dropZeros (mantissa / 10) s else (mantissa, s + 1)

theorem dropZeros_le (m s : Nat) : (dropZeros m s).1 ≤ m ∧ (dropZeros m s).2 ≤ s := by
  induction s generalizing m with
  | zero => simp [dropZeros]
  | succ s ih =>
    unfold dropZeros
    split
    · have := ih (m / 10); omega
    · simp

/-- The same value without zeros at the end of the fraction; zero without scale and sign. -/
def normalize (d : Decimal) : Decimal :=
  if d.mantissa = 0 then zero
  else
    let r := dropZeros d.mantissa d.scale
    have h := dropZeros_le d.mantissa d.scale
    ⟨d.negative, r.1, r.2, Nat.lt_of_le_of_lt h.1 d.mantissa_lt, Nat.le_trans h.2 d.scale_le⟩

/-! ## From whole numbers -/

def ofInt? (n : Int) : Option Decimal := ofParts? (n < 0) n.natAbs 0

/-! ## Text -/

/-- Digits with exactly `scale` of them after the point and at least one before it. -/
def chars (d : Decimal) : List Char :=
  let ds := Numeral.digits d.mantissa
  let padded := List.replicate (d.scale + 1 - ds.length) '0' ++ ds
  let whole := padded.take (padded.length - d.scale)
  let rest := padded.drop (padded.length - d.scale)
  (if d.negative then ['-'] else []) ++ whole ++ (if d.scale = 0 then [] else '.' :: rest)

def text (d : Decimal) : String := String.ofList d.chars

end Decimal
end MarketSearch
