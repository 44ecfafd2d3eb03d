/-
Prices and rates as exact numbers.

A decimal stands for a rational number (`Decimal.value`), and its units are that
number counted in the finest steps there are (`Decimal.units_eq`), so what the
theory of normal forms says of units it says of rational numbers: the normal
form keeps the number, the comparison is the one of numbers, and each number
has one normal form.  With one normal form goes one text, from which the value
is read back.

Both kinds of values are made of decimals in one way, up to the bounds they
check, and what follows is one statement about kinds (`Decimal.Kind.IsExact`).
-/
import Mathlib.Algebra.Order.Field.Rat
import Mathlib.Tactic.NormNum
import Mathlib.Tactic.Positivity
import MarketSearch.Proofs.DecimalText
import MarketSearch.Proofs.Unchecked

namespace MarketSearch

namespace Decimal

/-! ## Rational numbers -/

/-- The number that a decimal stands for. -/
def value (d : Decimal) : ℚ := (if d.negative then -(d.mantissa : ℚ) else d.mantissa) / 10 ^ d.scale

variable {a b d : Decimal}

theorem units_eq (d : Decimal) : (d.units : ℚ) = d.value * 10 ^ 28 := by
  have hsplit : (10 : ℚ) ^ 28 = 10 ^ d.scale * 10 ^ (28 - d.scale) := by
    rw [← pow_add]
    have := d.scale_le
    congr 1
    omega
  have hscale : (10 : ℚ) ^ d.scale ≠ 0 := by positivity
  rw [value, hsplit, div_mul_eq_mul_div, ← mul_assoc, mul_comm _ ((10 : ℚ) ^ d.scale), mul_assoc,
    mul_div_cancel_left₀ _ hscale]
  cases hsign : d.negative <;> simp [units, hsign]

theorem units_lt_units_iff : a.units < b.units ↔ a.value < b.value := by
  have hpos : (0 : ℚ) < 10 ^ 28 := by positivity
  rw [← mul_lt_mul_iff_left₀ hpos, ← units_eq, ← units_eq, Int.cast_lt]

theorem units_eq_units_iff : a.units = b.units ↔ a.value = b.value := by
  have hne : (10 : ℚ) ^ 28 ≠ 0 := by positivity
  rw [← mul_left_inj' hne, ← units_eq, ← units_eq, Int.cast_inj]

theorem units_le_units_iff : a.units ≤ b.units ↔ a.value ≤ b.value := by
  rw [← not_lt, units_lt_units_iff, not_lt]

/-- **Decimals are compared as numbers**, whatever their scales. -/
theorem compare_eq_compare_value (a b : Decimal) : a.compare b = Ord.compare a.value b.value := by
  rcases lt_trichotomy a.value b.value with h | h | h
  · rw [compare_lt_iff_lt.mpr h]
    exact compare_lt_iff_lt.mpr (units_lt_units_iff.mpr h)
  · rw [compare_eq_iff_eq.mpr h]
    exact compare_eq_iff_eq.mpr (units_eq_units_iff.mpr h)
  · rw [compare_gt_iff_gt.mpr h]
    exact compare_gt_iff_gt.mpr (units_lt_units_iff.mpr h)

theorem value_normalize (d : Decimal) : d.normalize.value = d.value :=
  units_eq_units_iff.mp d.units_normalize

theorem value_zero : zero.value = 0 := by simp [value, zero]

theorem value_hundred : hundred.value = 100 := by simp [value, hundred]

theorem units_nonneg_iff : 0 ≤ d.units ↔ 0 ≤ d.value := by
  rw [show (0 : Int) = zero.units from rfl, units_le_units_iff, value_zero]

theorem value_of_mantissa_zero (h : d.mantissa = 0) : d.value = 0 := by simp [value, h]

/-- **A number has one normal form**, and one text. -/
theorem normalize_eq_normalize_iff : a.normalize = b.normalize ↔ a.value = b.value := by
  constructor
  · intro h
    rw [← value_normalize a, h, value_normalize b]
  · intro h
    refine a.isNormal_normalize.eq_of_units_eq b.isNormal_normalize ?_
    rw [units_normalize, units_normalize]
    exact units_eq_units_iff.mpr h

theorem text_normalize_eq_iff : a.normalize.text = b.normalize.text ↔ a.value = b.value := by
  rw [text_inj a.isNormal_normalize.unsigned_zero b.isNormal_normalize.unsigned_zero]
  exact normalize_eq_normalize_iff

theorem normalize_normalize (d : Decimal) : d.normalize.normalize = d.normalize :=
  normalize_eq_self_iff.mpr d.isNormal_normalize

/-! ## Kinds of values -/

/-- A kind of values made of decimals: the numbers that it admits, how a value is made and refused, and
what is seen of one. -/
structure Kind (α : Type) where
  admits : ℚ → Prop
  make : Decimal → Except Violation α
  refusal : Decimal → Violation
  zero : α
  decimal : α → Decimal
  compare : α → α → Ordering
  text : α → String

namespace Kind

variable {α : Type} {k : Kind α}

/-- The values are the numbers they are made of. -/
structure IsExact (k : Kind α) : Prop where
  accepts : ∀ a, (∃ x, k.make a = .ok x) ↔ k.admits a.value
  refuses : ∀ a, k.make a = .error (k.refusal a) ↔ ¬ k.admits a.value
  /-- A zero with a sign is a zero like any other. -/
  takes_zero : ∀ a, a.mantissa = 0 → k.make a = .ok k.zero
  keeps : ∀ a x, k.make a = .ok x → (k.decimal x).value = a.value
  compares : ∀ a b x y, k.make a = .ok x → k.make b = .ok y → k.compare x y = Ord.compare a.value b.value
  /-- Values of one number are the same value. -/
  unique : ∀ a b x y, k.make a = .ok x → k.make b = .ok y → (x = y ↔ a.value = b.value)
  displays : ∀ a b x y, k.make a = .ok x → k.make b = .ok y → (x = y ↔ k.text x = k.text y)
  reads_back : ∀ a x, k.make a = .ok x → (ofText? (k.decimal x).text).map k.make = .some (.ok x)

/-- How a kind is made up: a decimal that is admitted is brought to normal form and wrapped, and a value is
compared and displayed as the decimal in it. -/
structure IsWrapped (k : Kind α) (wrap : Decimal → α) : Prop where
  make_eq_ok_iff : ∀ a x, k.make a = .ok x ↔ k.admits a.value ∧ x = wrap a.normalize
  make_eq_error_iff : ∀ a, k.make a = .error (k.refusal a) ↔ ¬ k.admits a.value
  admits_zero : k.admits 0
  zero_eq : k.zero = wrap .zero
  decimal_wrap : ∀ d, k.decimal (wrap d) = d
  compare_wrap : ∀ a b, k.compare (wrap a) (wrap b) = a.compare b
  text_wrap_iff : ∀ a b, k.text (wrap a) = k.text (wrap b) ↔ a.text = b.text

variable {wrap : Decimal → α}

theorem IsWrapped.wrap_inj (h : k.IsWrapped wrap) {a b : Decimal} : wrap a = wrap b ↔ a = b := by
  constructor
  · intro hwrap
    rw [← h.decimal_wrap a, hwrap, h.decimal_wrap b]
  · rintro rfl
    rfl

theorem IsWrapped.isExact (h : k.IsWrapped wrap) : k.IsExact := by
  have hform : ∀ a x, k.make a = .ok x → x = wrap a.normalize := fun a x hx =>
    ((h.make_eq_ok_iff a x).mp hx).2
  constructor
  case accepts =>
    intro a
    constructor
    · intro haccepted
      obtain ⟨x, hx⟩ := haccepted
      exact ((h.make_eq_ok_iff a x).mp hx).1
    · intro hadmits
      exact ⟨_, (h.make_eq_ok_iff a _).mpr ⟨hadmits, rfl⟩⟩
  case refuses => exact h.make_eq_error_iff
  case takes_zero =>
    intro a ha
    have hzero : a.normalize = .zero := if_pos ha
    refine (h.make_eq_ok_iff a _).mpr ⟨?_, ?_⟩
    · rw [value_of_mantissa_zero ha]
      exact h.admits_zero
    · rw [h.zero_eq, hzero]
  case keeps =>
    intro a x hx
    rw [hform a x hx, h.decimal_wrap, value_normalize]
  case compares =>
    intro a b x y hx hy
    rw [hform a x hx, hform b y hy, h.compare_wrap, compare_eq_compare_value, value_normalize, value_normalize]
  case unique =>
    intro a b x y hx hy
    rw [hform a x hx, hform b y hy, h.wrap_inj, normalize_eq_normalize_iff]
  case displays =>
    intro a b x y hx hy
    rw [hform a x hx, hform b y hy, h.wrap_inj, h.text_wrap_iff, normalize_eq_normalize_iff, text_normalize_eq_iff]
  case reads_back =>
    intro a x hx
    obtain ⟨hadmits, rfl⟩ := (h.make_eq_ok_iff a x).mp hx
    rw [h.decimal_wrap, ofText?_text a.isNormal_normalize.unsigned_zero]
    have hmake : k.make a.normalize = .ok (wrap a.normalize) := by
      refine (h.make_eq_ok_iff _ _).mpr ⟨?_, ?_⟩
      · rwa [value_normalize]
      · rw [normalize_normalize]
    exact congrArg some hmake

end Kind
end Decimal

/-! ## Prices and rates -/

open Decimal

namespace Price

def kind : Kind Price := ⟨(0 ≤ ·), ofDecimal, .price, zero, amount, compare, text⟩

theorem isWrapped_kind : kind.IsWrapped mk where
  make_eq_ok_iff a p := ofDecimal_eq_ok_iff.trans (and_congr_left' units_nonneg_iff)
  make_eq_error_iff a := by
    have hnegative : ¬ kind.admits a.value ↔ a.units < 0 := (not_congr units_nonneg_iff).symm.trans Int.not_le
    rw [hnegative]
    exact ofDecimal_eq_error_iff
  admits_zero := le_refl _
  zero_eq := rfl
  decimal_wrap _ := rfl
  compare_wrap _ _ := rfl
  text_wrap_iff _ _ := Iff.rfl

end Price

namespace DiscountRate

def kind : Kind DiscountRate :=
  ⟨fun x => 0 ≤ x ∧ x ≤ 100, ofDecimal, .discountRate, zero, percent, compare, text⟩

theorem admits_kind_iff {a : Decimal} : kind.admits a.value ↔ 0 ≤ a.units ∧ a.units ≤ hundred.units := by
  rw [units_nonneg_iff, units_le_units_iff, value_hundred]
  rfl

theorem isWrapped_kind : kind.IsWrapped mk where
  make_eq_ok_iff a r := by
    rw [admits_kind_iff, and_assoc]
    exact ofDecimal_eq_ok_iff
  make_eq_error_iff a := by
    rw [admits_kind_iff, not_and_or, Int.not_le, Int.not_le]
    exact ofDecimal_eq_error_iff
  admits_zero := ⟨le_refl _, by norm_num⟩
  zero_eq := rfl
  decimal_wrap _ := rfl
  compare_wrap _ _ := rfl
  text_wrap_iff a b := by
    have htext : ∀ d : Decimal, (kind.text ⟨d⟩).toList = d.text.toList ++ ['%'] := fun _ => String.toList_append
    rw [← String.toList_inj, htext, htext, List.append_left_inj, String.toList_inj]

end DiscountRate

/-- **Prices and rates are exact decimals in one form.** A price is made of every decimal that is not below
zero and of no other, a rate of every decimal from 0 to 100; it is the same number; prices are compared
as the numbers are, those of one number are one price with one text, and those of two numbers have two;
and the decimal of a price is read back from its text, and makes the price again. The same holds of
rates. -/
theorem prices_and_rates_are_exact : Price.kind.IsExact ∧ DiscountRate.kind.IsExact :=
  ⟨Price.isWrapped_kind.isExact, DiscountRate.isWrapped_kind.isExact⟩

end MarketSearch
