/-
The normal form of decimals as a theory: it has the value of the decimal it is
made of (`Decimal.units_normalize`), it ends in no zero after the point, and a
zero in it has no sign (`Decimal.isNormal_normalize`).  A value has one normal
form (`Decimal.IsNormal.eq_of_units_eq`), so a decimal is in it exactly when it
is its own.
-/
import MarketSearch.Decimal.Basic

namespace MarketSearch
namespace Decimal

/-! ## Dropping zeros -/

/-- As many zeros are dropped from the mantissa as places from the scale, until there are none left
of one or the other. -/
theorem dropZeros_spec (m s : Nat) :
    (dropZeros m s).2 ≤ s ∧ m = (dropZeros m s).1 * Nat.pow 10 (s - (dropZeros m s).2) ∧
      ((dropZeros m s).2 ≠ 0 → (dropZeros m s).1 % 10 ≠ 0) := by
  induction s generalizing m with
  | zero => simp [dropZeros]
  | succ s ih =>
    unfold dropZeros
    split
    · next h10 =>
      obtain ⟨hle, hm, hend⟩ := ih (m / 10)
      refine ⟨Nat.le_succ_of_le hle, ?_, hend⟩
      calc m = m / 10 * 10 := (Nat.div_mul_cancel (Nat.dvd_of_mod_eq_zero h10)).symm
        _ = (dropZeros (m / 10) s).1 * Nat.pow 10 (s - (dropZeros (m / 10) s).2) * 10 := by rw [← hm]
        _ = (dropZeros (m / 10) s).1 * Nat.pow 10 (s + 1 - (dropZeros (m / 10) s).2) := by
          rw [Nat.succ_sub hle, Nat.mul_assoc]
          rfl
    · next h10 => simpa using h10

/-! ## Normal form -/

structure IsNormal (d : Decimal) : Prop where
  /-- No zero stands at the end of a fraction. -/
  fraction_end : d.scale ≠ 0 → d.mantissa % 10 ≠ 0
  /-- A zero has no sign. -/
  unsigned_zero : d.mantissa = 0 → d.negative = false

theorem isNormal_zero : zero.IsNormal := ⟨fun h => absurd rfl h, fun _ => rfl⟩

theorem isNormal_normalize (d : Decimal) : d.normalize.IsNormal := by
  obtain ⟨-, hm, hend⟩ := dropZeros_spec d.mantissa d.scale
  unfold normalize
  split
  · exact isNormal_zero
  · next hne =>
    refine ⟨hend, fun h => absurd ?_ hne⟩
    rw [hm, show (dropZeros d.mantissa d.scale).1 = 0 from h, Nat.zero_mul]

/-- What is dropped from the mantissa is made up for by the scale. -/
theorem dropZeros_units {m s : Nat} (hs : s ≤ 28) :
    (dropZeros m s).1 * Nat.pow 10 (28 - (dropZeros m s).2) = m * Nat.pow 10 (28 - s) := by
  obtain ⟨hle, hm, -⟩ := dropZeros_spec m s
  have hsplit : 28 - (dropZeros m s).2 = (s - (dropZeros m s).2) + (28 - s) := by omega
  calc (dropZeros m s).1 * Nat.pow 10 (28 - (dropZeros m s).2)
      = (dropZeros m s).1 * (Nat.pow 10 (s - (dropZeros m s).2) * Nat.pow 10 (28 - s)) := by
        rw [hsplit]
        exact congrArg _ (Nat.pow_add ..)
    _ = m * Nat.pow 10 (28 - s) := by rw [← Nat.mul_assoc, ← hm]

theorem units_normalize (d : Decimal) : d.normalize.units = d.units := by
  unfold normalize
  split
  · next h => simp [units, zero, h]
  · have h := @dropZeros_units d.mantissa _ d.scale_le
    simp only [units, ← Int.natCast_mul, h]

/-! ## Signs -/

theorem isNegative_iff {d : Decimal} : d.isNegative = true ↔ d.units < 0 := by
  have hpow : Nat.pow 10 (28 - d.scale) ≠ 0 := Nat.ne_of_gt (Nat.pow_pos (by decide))
  have hzero : d.mantissa = 0 ↔ d.mantissa * Nat.pow 10 (28 - d.scale) = 0 := by
    rw [Nat.mul_eq_zero, or_iff_left hpow]
  simp only [isNegative, isZero, units, ← Int.natCast_mul, Bool.and_eq_true, Bool.not_eq_true',
    beq_eq_false_iff_ne, ne_eq, hzero]
  generalize d.mantissa * Nat.pow 10 (28 - d.scale) = n
  cases d.negative with
  | false =>
    simp only [Bool.false_eq_true, false_and, if_false, false_iff]
    omega
  | true =>
    simp only [true_and, if_true]
    omega

variable {a b d : Decimal}

/-! ## One normal form -/

theorem pow_ten_pos (n : Nat) : 0 < Nat.pow 10 n := Nat.pow_pos (by decide)

theorem units_eq_zero_iff : d.units = 0 ↔ d.mantissa = 0 := by
  have hpow := Nat.ne_of_gt (pow_ten_pos (28 - d.scale))
  rw [← or_iff_left (a := d.mantissa = 0) hpow, ← Nat.mul_eq_zero]
  simp only [units, ← Int.natCast_mul]
  split <;> omega

theorem IsNormal.eq_zero (h : d.IsNormal) (hd : d.mantissa = 0) : d = zero := by
  have hscale : d.scale = 0 := by
    refine Classical.byContradiction fun hne => h.fraction_end hne ?_
    rw [hd]
  have hsign := h.unsigned_zero hd
  cases d
  simp_all [zero]

/-- Values other than zero that are equal have equal signs and magnitudes. -/
theorem parts_of_units_eq (hne : a.units ≠ 0) (h : a.units = b.units) :
    a.negative = b.negative ∧
      a.mantissa * Nat.pow 10 (28 - a.scale) = b.mantissa * Nat.pow 10 (28 - b.scale) := by
  simp only [units, ← Int.natCast_mul] at hne h
  cases ha : a.negative <;> cases hb : b.negative <;>
    simp only [ha, hb, Bool.false_eq_true, if_false, if_true] at hne h <;>
    refine ⟨?_, ?_⟩ <;> first | rfl | omega

/-- Of two mantissas for one magnitude, the one with the larger scale ends in a zero. -/
theorem mod_ten_of_scale_lt {m n s t : Nat} (hst : s < t) (ht : t ≤ 28)
    (h : m * Nat.pow 10 (28 - s) = n * Nat.pow 10 (28 - t)) : n % 10 = 0 := by
  have hsplit : Nat.pow 10 (28 - s) = Nat.pow 10 (t - s - 1) * 10 * Nat.pow 10 (28 - t) := by
    have hexp : 28 - s = (t - s - 1) + 1 + (28 - t) := by omega
    rw [hexp]
    simp only [Nat.pow_eq, Nat.pow_add, Nat.pow_one]
  have hn : n = m * Nat.pow 10 (t - s - 1) * 10 := by
    refine Nat.eq_of_mul_eq_mul_right (pow_ten_pos (28 - t)) ?_
    calc n * Nat.pow 10 (28 - t) = m * (Nat.pow 10 (t - s - 1) * 10 * Nat.pow 10 (28 - t)) := by rw [← h, hsplit]
      _ = m * Nat.pow 10 (t - s - 1) * 10 * Nat.pow 10 (28 - t) := by simp only [Nat.mul_assoc]
  rw [hn, Nat.mul_mod_left]

theorem IsNormal.scale_eq (ha : a.IsNormal) (hb : b.IsNormal)
    (h : a.mantissa * Nat.pow 10 (28 - a.scale) = b.mantissa * Nat.pow 10 (28 - b.scale)) :
    a.scale = b.scale := by
  rcases Nat.lt_trichotomy a.scale b.scale with hlt | heq | hlt
  · exact absurd (mod_ten_of_scale_lt hlt b.scale_le h) (hb.fraction_end (Nat.ne_zero_of_lt hlt))
  · exact heq
  · exact absurd (mod_ten_of_scale_lt hlt a.scale_le h.symm) (ha.fraction_end (Nat.ne_zero_of_lt hlt))

/-- **A value has one normal form.** -/
theorem IsNormal.eq_of_units_eq (ha : a.IsNormal) (hb : b.IsNormal) (h : a.units = b.units) : a = b := by
  by_cases hzero : a.units = 0
  · rw [ha.eq_zero (units_eq_zero_iff.mp hzero), hb.eq_zero (units_eq_zero_iff.mp (h ▸ hzero))]
  · obtain ⟨hsign, hmagnitude⟩ := parts_of_units_eq hzero h
    have hscale := ha.scale_eq hb hmagnitude
    have hmantissa : a.mantissa = b.mantissa := by
      rw [hscale] at hmagnitude
      exact Nat.eq_of_mul_eq_mul_right (pow_ten_pos _) hmagnitude
    cases a
    cases b
    simp_all

theorem normalize_eq_self_iff : d.normalize = d ↔ d.IsNormal :=
  ⟨fun h => h ▸ d.isNormal_normalize, fun h => d.isNormal_normalize.eq_of_units_eq h d.units_normalize⟩

/-- A decimal from a whole number is in normal form. -/
theorem isNormal_ofInt? {n : Int} (h : ofInt? n = .some d) : d.IsNormal ∧ d.units = n * Nat.pow 10 28 := by
  unfold ofInt? ofParts? at h
  split at h
  · cases h
    refine ⟨⟨fun h => absurd rfl h, fun h => ?_⟩, ?_⟩
    · simp_all
    · by_cases hn : n < 0
      · have hsign : (decide (n < 0) && n.natAbs != 0) = true := by simp [hn, Int.ne_of_lt hn]
        have hmagnitude : (n.natAbs : Int) = -n := by omega
        simp only [units, hsign, hmagnitude, Nat.sub_zero, if_true]
        rw [Int.neg_mul, Int.neg_neg]
      · have hsign : (decide (n < 0) && n.natAbs != 0) = false := by simp [hn]
        have hmagnitude : (n.natAbs : Int) = n := by omega
        simp only [units, hsign, hmagnitude, Nat.sub_zero, Bool.false_eq_true, if_false]
  · cases h

end Decimal
end MarketSearch
