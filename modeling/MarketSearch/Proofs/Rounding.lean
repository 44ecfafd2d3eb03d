/-
How large rounded numbers are.

A rounded quotient is at most twice the quotient and a least unit
(`Binary64.scaled_nearestScaled_le`), which is far from sharp and enough: it
bounds each operation by what goes into it (`Binary64.AtMost`), so that nothing
a decimal is turned into, and nothing a moderate number is scaled to, gets
anywhere near infinity.
-/
import MarketSearch.Decimal.Binary
import Mathlib.Algebra.Order.Ring.Nat
import Mathlib.Tactic.Linarith
import Mathlib.Tactic.Ring

namespace MarketSearch
namespace Binary64

/-! ## Quotients -/

theorem unit_pos : 0 < unit := by decide +kernel

theorem unit_le : unit ≤ 2 ^ 1074 := by decide +kernel

theorem mul_two_pow_lt {b m n k : Nat} (hb : b ≤ 2 ^ m) (h : m + n < k) : b * 2 ^ n < 2 ^ k := by
  calc b * 2 ^ n ≤ 2 ^ m * 2 ^ n := Nat.mul_le_mul_right _ hb
    _ = 2 ^ (m + n) := (Nat.pow_add ..).symm
    _ < 2 ^ k := Nat.pow_lt_pow_right Nat.one_lt_two h

theorem mul_unit_lt {b : Nat} (hb : b ≤ 2 ^ 1000) : b * unit < 2 ^ 2097 :=
  (Nat.mul_le_mul_left b unit_le).trans_lt (mul_two_pow_lt hb (by decide))

theorem nearestEven_le (a d : Nat) : nearestEven a d ≤ a / d + 1 := by
  unfold nearestEven
  grind

theorem le_nearestEven (a d : Nat) : a / d ≤ nearestEven a d := by
  unfold nearestEven
  grind

/-- The power of two that a quotient is rounded to is no larger than the quotient. -/
theorem two_pow_le {q : Nat} (hq : q ≠ 0) : 2 ^ (q.log2 - 52) ≤ q :=
  (Nat.pow_le_pow_right (by decide) (Nat.sub_le ..)).trans (Nat.log2_self_le hq)

/-- A significand and an exponent as they are rounded, before one that grew a digit is halved. -/
theorem nearestScaled_cases (negative : Bool) (a d : Nat) :
    let p := (a / d).log2 - 52
    let m := nearestEven a (d * 2 ^ p)
    nearestScaled negative a d =
      if m = 2 ^ 53 then if 2045 < p + 1 then .infinite negative else .finite negative (2 ^ 52) (p + 1)
      else if 2045 < p then .infinite negative else .finite negative m p := by
  intro p m
  unfold nearestScaled
  simp only [Nat.pow_eq]
  split <;> rfl

variable {negative : Bool} {a d : Nat}

theorem isFinite_nearestScaled {k : Nat} (h : a / d < 2 ^ k) (hk : k ≤ 2097) :
    (nearestScaled negative a d).isFinite = true := by
  have hlog : (a / d).log2 < 2097 := by
    by_cases hq : a / d = 0
    · simp [hq]
    · exact ((Nat.log2_lt hq).mpr h).trans_le hk
  rw [nearestScaled_cases]
  split
  · rw [if_neg (by omega)]
    rfl
  · rw [if_neg (by omega)]
    rfl

/-- A significand that grew a digit is halved, and the number stays the same. -/
theorem scaled_nearestScaled (h : (nearestScaled negative a d).isFinite = true) :
    (nearestScaled negative a d).scaled =
      nearestEven a (d * 2 ^ ((a / d).log2 - 52)) * 2 ^ ((a / d).log2 - 52) := by
  rw [nearestScaled_cases] at h ⊢
  generalize (a / d).log2 - 52 = p at h ⊢
  split at h
  · next hcarry =>
    split at h
    · cases h
    · next hfinite =>
      rw [if_pos hcarry, if_neg hfinite, hcarry, scaled, Nat.pow_eq, pow_succ' 2 p, ← mul_assoc,
        ← pow_succ 2 52]
  · next hcarry =>
    split at h
    · cases h
    · next hfinite => rw [if_neg hcarry, if_neg hfinite, scaled, Nat.pow_eq]

theorem scaled_nearestScaled_le (h : (nearestScaled negative a d).isFinite = true) :
    (nearestScaled negative a d).scaled ≤ 2 * (a / d) + 1 := by
  have hm := nearestEven_le a (d * 2 ^ ((a / d).log2 - 52))
  have hp : 2 ^ ((a / d).log2 - 52) ≤ a / d + 1 := by
    by_cases hq : a / d = 0
    · simp [hq]
    · exact (two_pow_le hq).trans (Nat.le_succ _)
  rw [scaled_nearestScaled h]
  rw [← Nat.div_div_eq_div_mul] at hm
  generalize 2 ^ ((a / d).log2 - 52) = power at *
  calc _ ≤ (a / d / power + 1) * power := Nat.mul_le_mul_right _ hm
    _ = a / d / power * power + power := by rw [Nat.add_mul, Nat.one_mul]
    _ ≤ a / d + (a / d + 1) := Nat.add_le_add (Nat.div_mul_le_self _ _) hp
    _ = 2 * (a / d) + 1 := by omega

theorem le_scaled_nearestScaled (h : (nearestScaled negative a d).isFinite = true) :
    a / d ≤ 2 * (nearestScaled negative a d).scaled := by
  rw [scaled_nearestScaled h]
  by_cases hq : a / d = 0
  · simp [hq]
  have hm := le_nearestEven a (d * 2 ^ ((a / d).log2 - 52))
  have hp := two_pow_le hq
  have hpos : 0 < 2 ^ ((a / d).log2 - 52) := Nat.two_pow_pos _
  rw [← Nat.div_div_eq_div_mul] at hm
  generalize 2 ^ ((a / d).log2 - 52) = power at *
  have hone : power ≤ a / d / power * power := Nat.le_mul_of_pos_left _ (Nat.div_pos hp hpos)
  have hrest : a / d % power < power := Nat.mod_lt _ hpos
  calc a / d = a / d / power * power + a / d % power := (Nat.div_add_mod' ..).symm
    _ ≤ 2 * (a / d / power * power) := by omega
    _ ≤ _ := Nat.mul_le_mul_left _ (Nat.mul_le_mul_right _ hm)

/-! ## Operations -/

/-- A finite number, of which the magnitude is at most that whole one. -/
structure AtMost (b : Nat) (x : Binary64) : Prop where
  isFinite : x.isFinite = true
  scaled_le : x.scaled ≤ b * unit

variable {x y : Binary64} {b c : Nat}

theorem AtMost.mono (h : AtMost b x) (hbc : b ≤ c) : AtMost c x :=
  ⟨h.isFinite, h.scaled_le.trans (Nat.mul_le_mul_right _ hbc)⟩

theorem atMost_nearestScaled (h : a / d ≤ b * unit) (hb : b ≤ 2 ^ 1000) :
    AtMost (2 * b + 1) (nearestScaled negative a d) := by
  have hfinite := @isFinite_nearestScaled negative _ _ _ (h.trans_lt (mul_unit_lt hb)) (Nat.le_refl _)
  have hunit := unit_pos
  refine ⟨hfinite, ?_⟩
  calc _ ≤ 2 * (a / d) + 1 := scaled_nearestScaled_le hfinite
    _ ≤ 2 * (b * unit) + unit := by omega
    _ = (2 * b + 1) * unit := by rw [Nat.add_mul, Nat.one_mul, Nat.mul_assoc]

theorem atMost_ofNat {n : Nat} (h : n ≤ 2 ^ 1000) : AtMost (2 * n + 1) (.ofNat n) :=
  atMost_nearestScaled (Nat.div_le_self ..) h

theorem AtMost.add (hx : AtMost b x) (hy : AtMost c y) (h : b + c ≤ 2 ^ 1000) :
    AtMost (2 * (b + c) + 1) (x.add y) := by
  refine atMost_nearestScaled ?_ h
  rw [Nat.div_one, Nat.add_mul]
  exact Nat.add_le_add hx.scaled_le hy.scaled_le

theorem AtMost.mul (hx : AtMost b x) (hy : AtMost c y) (h : b * c ≤ 2 ^ 1000) :
    AtMost (2 * (b * c) + 1) (x.mul y) := by
  have hboth : (x.isFinite && y.isFinite) = true := by rw [hx.isFinite, hy.isFinite]; rfl
  rw [Binary64.mul, if_pos hboth]
  refine atMost_nearestScaled (Nat.div_le_of_le_mul ?_) h
  calc x.scaled * y.scaled ≤ (b * unit) * (c * unit) := Nat.mul_le_mul hx.scaled_le hy.scaled_le
    _ = unit * (b * c * unit) := by
      generalize unit = u
      ring

/-- What is divided by two or more hardly grows. -/
theorem AtMost.div (hx : AtMost b x) (hy : 2 * unit ≤ y.scaled) (h : b ≤ 2 ^ 1000) : AtMost (b + 1) (x.div y) := by
  have hunit := unit_pos
  have hhalf : x.scaled * unit / y.scaled ≤ x.scaled / 2 := by
    calc x.scaled * unit / y.scaled ≤ x.scaled * unit / (2 * unit) := Nat.div_le_div_left hy (by omega)
      _ = x.scaled / 2 := Nat.mul_div_mul_right _ _ hunit
  have hquotient : x.scaled * unit / y.scaled ≤ b * unit :=
    hhalf.trans ((Nat.div_le_self _ _).trans hx.scaled_le)
  rw [Binary64.div, if_pos hx.isFinite]
  have hfinite := @isFinite_nearestScaled false _ _ _ (hquotient.trans_lt (mul_unit_lt h)) (Nat.le_refl _)
  refine ⟨hfinite, ?_⟩
  calc _ ≤ 2 * (x.scaled * unit / y.scaled) + 1 := scaled_nearestScaled_le hfinite
    _ ≤ x.scaled + 1 := by omega
    _ ≤ b * unit + unit := Nat.add_le_add hx.scaled_le hunit
    _ = (b + 1) * unit := by rw [Nat.add_mul, Nat.one_mul]

/-- A magnitude grows by one at most when it is rounded to a whole number. -/
theorem AtMost.roundToNat_le (hx : AtMost b x) : x.roundToNat ≤ b + 1 := by
  refine Nat.div_le_of_le_mul ?_
  calc 2 * x.scaled + unit ≤ 2 * (b * unit) + 2 * unit :=
      Nat.add_le_add (Nat.mul_le_mul_left _ hx.scaled_le) (Nat.le_mul_of_pos_left _ Nat.two_pos)
    _ = 2 * unit * (b + 1) := by
      generalize unit = u
      ring

/-! ## Powers of ten -/

/-- The largest power that a number is scaled with when it is read. -/
theorem two_le_ofNat_308 {n : Nat} (h : n = 308) : 2 * unit ≤ (Binary64.ofNat (Nat.pow 10 n)).scaled := by
  subst h
  decide +kernel

theorem two_le_ofNat {n : Nat} (hn : n ≠ 0) (hmax : n ≤ 308) : 2 * unit ≤ (Binary64.ofNat (Nat.pow 10 n)).scaled := by
  rcases hmax.lt_or_eq with hlt | heq
  · have hten : 10 ≤ 10 ^ n := Nat.le_self_pow hn 10
    have hlarge : 10 ^ n ≤ 2 ^ 1020 := (Nat.pow_le_pow_right (by decide) (Nat.le_of_lt_succ hlt)).trans (by decide +kernel)
    have hbound : Nat.pow 10 n * unit / 1 < 2 ^ 2097 := by
      rw [Nat.div_one]
      exact (Nat.mul_le_mul_left _ unit_le).trans_lt (mul_two_pow_lt hlarge (by decide))
    have hhalf := le_scaled_nearestScaled (@isFinite_nearestScaled false _ _ _ hbound (Nat.le_refl _))
    rw [Nat.div_one] at hhalf
    have hunit : 10 * unit ≤ Nat.pow 10 n * unit := Nat.mul_le_mul_right _ hten
    change 2 * unit ≤ (nearestScaled false (Nat.pow 10 n * unit) 1).scaled
    omega
  · exact two_le_ofNat_308 heq

end Binary64

/-! ## Decimals -/

namespace Decimal

open Binary64

/-- The powers that a decimal is rounded with. -/
theorem scalePower_bounds : ∀ scale < 29, scale ≠ 0 →
    2 * unit ≤ (scalePower scale).scaled ∧ (scalePower scale).isFinite = true ∧
      (scalePower scale).scaled ≤ 2 ^ 96 * unit := by
  decide +kernel

/-- The binary number of a decimal is finite, and not much larger. -/
theorem atMost_magnitude (d : Decimal) : AtMost (2 ^ 200) d.magnitude := by
  have hmantissa : d.mantissa < 2 ^ 96 := d.mantissa_lt
  have hof : ∀ {n : Nat}, n ≤ d.mantissa → AtMost (2 ^ 97) (.ofNat n) := fun hn =>
    (atMost_ofNat (by omega)).mono (by omega)
  unfold magnitude
  split
  · exact (hof (Nat.le_refl _)).mono (by omega)
  · next hscale =>
    obtain ⟨htwo, hfinite, hpower⟩ := scalePower_bounds d.scale (Nat.lt_succ_of_le d.scale_le) hscale
    have hwhole := hof (Nat.div_le_self d.mantissa (Nat.pow 10 d.scale))
    have hfraction := (hof (Nat.mod_le d.mantissa (Nat.pow 10 d.scale))).div
      (two_le_ofNat hscale (d.scale_le.trans (by decide))) (by omega)
    dsimp only
    split
    · exact hwhole.mono (by omega)
    · have hsum := (hwhole.add hfraction (by omega)).mono (show _ ≤ 2 ^ 100 by omega)
      have hproduct := hsum.mul ⟨hfinite, hpower⟩ (by omega)
      have hround := hproduct.roundToNat_le
      have hrounded := (atMost_ofNat (hround.trans (by omega))).mono (show _ ≤ 2 ^ 199 by omega)
      exact (hrounded.div htwo (by omega)).mono (by omega)

theorem atMost_toBinary64 (d : Decimal) : AtMost (2 ^ 200) d.toBinary64 := by
  have hmagnitude := d.atMost_magnitude
  unfold toBinary64
  split
  · cases hd : d.magnitude with
    | finite s m p => exact ⟨rfl, (hd ▸ hmagnitude).scaled_le⟩
    | infinite s | nan => exact absurd (hd ▸ hmagnitude).isFinite Bool.false_ne_true
  · exact hmagnitude

end Decimal
end MarketSearch
