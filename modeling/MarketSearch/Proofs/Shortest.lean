/-
The shortest digits of a binary number: there are some, and the number that
they name is of the size of the binary one.

Every candidate is taken from a grid that is at most as coarse as the number is
large, and is the neighbour of the number there (`Binary64.onGrid?_bounds`); none
is zero, since a zero reads back as no other number.  That the candidate is the
shortest or the closest one plays no part.
-/
import MarketSearch.Proofs.Numeral
import MarketSearch.Proofs.Rounding

namespace MarketSearch

namespace ScaledDigits

/-- How many digits a number has before its point, or less than none if it has zeros behind it. -/
def lead (x : ScaledDigits) : Int := (Numeral.digits x.digits).length + x.exponent

theorem lead_le {x : ScaledDigits} {k : Nat} (hne : x.digits ≠ 0)
    (h : x.digits * 10 ^ x.exponent.toNat < 10 ^ k * 10 ^ (-x.exponent).toNat) : x.lead ≤ k := by
  have hlt : x.digits < 10 ^ (k + (-x.exponent).toNat - x.exponent.toNat) ∧
      x.exponent.toNat < k + (-x.exponent).toNat := by
    rw [← Nat.pow_add] at h
    have hexp : x.exponent.toNat < k + (-x.exponent).toNat := by
      have hpower : 10 ^ x.exponent.toNat < 10 ^ (k + (-x.exponent).toNat) :=
        (Nat.le_mul_of_pos_left _ (Nat.pos_of_ne_zero hne)).trans_lt h
      exact (Nat.pow_lt_pow_iff_right (by decide)).mp hpower
    refine ⟨Nat.lt_of_mul_lt_mul_right (a := 10 ^ x.exponent.toNat) ?_, hexp⟩
    rwa [← Nat.pow_add, Nat.sub_add_cancel hexp.le]
  have hlength := Numeral.length_digits_le hlt.1 (by omega)
  unfold lead
  omega

end ScaledDigits

namespace Binary64

/-! ## Zeros at the end -/

theorem digits_strip_ne_zero {x : ScaledDigits} (h : x.digits ≠ 0) : (strip x).digits ≠ 0 := by
  fun_induction strip x with
  | case1 x hx ih =>
    have hdigits : x.digits / 10 ≠ 0 := by omega
    exact ih hdigits
  | case2 x hx => exact h

theorem lead_strip (x : ScaledDigits) : (strip x).lead = x.lead := by
  fun_induction strip x with
  | case1 x hx ih =>
    have hpush : Numeral.digits x.digits = Numeral.digits (x.digits / 10) ++ [Numeral.digitChar 0] := by
      rw [← Numeral.digits_push (by omega) (by decide)]
      congr
      omega
    rw [ih]
    simp only [ScaledDigits.lead, hpush, List.length_append, List.length_singleton]
    omega
  | case2 x hx => rfl

/-! ## Grids -/

variable {tie : Tie} {m p : Nat} {t : Int} {x : ScaledDigits}

/-- Zero reads back as no other number. -/
theorem readsBack_zero (hm : m ≠ 0) : readsBack m p 0 t = false := by
  have hpower : 0 < Nat.pow 2 p := Nat.pow_pos (by decide)
  have hdown : 0 < (tenPow t).2 := Nat.pow_pos (by decide)
  have hlow : 0 < (4 * (m * Nat.pow 2 p) - if m = Nat.pow 2 52 ∧ 0 < p then Nat.pow 2 p else 2 * Nat.pow 2 p) *
      (tenPow t).2 := by
    refine Nat.mul_pos (Nat.sub_pos_of_lt ?_) hdown
    have hle : Nat.pow 2 p ≤ m * Nat.pow 2 p := Nat.le_mul_of_pos_left _ (Nat.pos_of_ne_zero hm)
    split <;> omega
  simp only [readsBack, Nat.mul_zero, Nat.zero_mul, Nat.le_zero_eq, Nat.ne_of_gt hlow, Nat.not_lt_zero,
    decide_false, Bool.false_and, ite_self]

theorem onGrid?_bounds (hm : m ≠ 0) (h : onGrid? tie m p t = .some x) :
    x.exponent = t ∧ x.digits ≠ 0 ∧ x.digits ≤ m * Nat.pow 2 p * (tenPow t).2 / (unit * (tenPow t).1) + 1 := by
  have hzero : ∀ {c}, readsBack m p c t = true → c ≠ 0 := by
    rintro c hc rfl
    rw [readsBack_zero hm] at hc
    cases hc
  unfold onGrid? at h
  dsimp only at h
  split at h
  · next hc hnext =>
    split at h <;> cases h
    · exact ⟨rfl, hzero hc, Nat.le_succ _⟩
    · exact ⟨rfl, hzero hnext, Nat.le_refl _⟩
  · next hc hnext =>
    cases h
    exact ⟨rfl, hzero hc, Nat.le_succ _⟩
  · next hc hnext =>
    cases h
    exact ⟨rfl, hzero hnext, Nat.le_refl _⟩
  · cases h

theorem leadExponent_le {a k : Nat} (h : a < 2 ^ k) (d : Nat) :
    leadExponent a d ≤ ((k : Int) - d.log2) * 1233 / 4096 + 2 := by
  have hlog : a.log2 ≤ k := by
    by_cases ha : a = 0
    · simp [ha]
    · exact ((Nat.log2_lt ha).mpr h).le
  have hfind : ∀ (guess : Int) (atMost : Int → Bool),
      ([guess + 2, guess + 1, guess, guess - 1].find? atMost).getD (guess - 2) ≤ guess + 2 := by
    intro guess atMost
    cases hfound : [guess + 2, guess + 1, guess, guess - 1].find? atMost with
    | none => exact Int.le_trans (Int.sub_le_self _ (by decide)) (Int.le_add_of_nonneg_right (by decide))
    | some e =>
      have hmem := List.mem_of_find?_eq_some hfound
      simp only [List.mem_cons, List.not_mem_nil, or_false] at hmem
      rw [Option.getD_some]
      omega
  refine (hfind _ _).trans ?_
  omega

/-! ## The shortest digits -/

theorem log2_unit : unit.log2 = 1074 := by decide +kernel

/-- A candidate from a grid, or the exact value. -/
theorem shortest_cases (tie : Tie) (m p : Nat) : ∃ x, shortest tie m p = strip x ∧
    ((∃ t ≤ leadExponent (m * Nat.pow 2 p) unit, onGrid? tie m p t = .some x) ∨
      ∃ n : Nat, unit ≤ 2 ^ n ∧ x = ⟨m * Nat.pow 2 p * Nat.pow 5 n, -n⟩) := by
  refine ⟨_, rfl, ?_⟩
  cases hfound : (List.range 17).findSome? fun (i : Nat) =>
      onGrid? tie m p (leadExponent (m * Nat.pow 2 p) unit - (i : Int)) with
  | none =>
    -- a name for the exponent keeps its power from being computed
    obtain ⟨n, hn, hunit⟩ : ∃ n : Nat, 1074 = n ∧ unit ≤ 2 ^ n := ⟨1074, rfl, unit_le⟩
    have hcast : (1074 : Int) = n := congrArg Nat.cast hn
    rw [Option.getD_none, hn, hcast]
    exact .inr ⟨n, hunit, rfl⟩
  | some x =>
    obtain ⟨i, -, hi⟩ := List.exists_of_findSome?_eq_some hfound
    exact .inl ⟨_, Int.sub_le_self _ (Int.natCast_nonneg i), hi⟩

theorem exact_ne_zero (hm : m ≠ 0) (p n : Nat) : m * Nat.pow 2 p * Nat.pow 5 n ≠ 0 :=
  Nat.mul_ne_zero (Nat.mul_ne_zero hm (Nat.ne_of_gt (Nat.pow_pos (by decide)))) (Nat.ne_of_gt (Nat.pow_pos (by decide)))

theorem digits_shortest_ne_zero (tie : Tie) (hm : m ≠ 0) (p : Nat) : (shortest tie m p).digits ≠ 0 := by
  obtain ⟨x, hx, hcases⟩ := shortest_cases tie m p
  rw [hx]
  refine digits_strip_ne_zero ?_
  rcases hcases with ⟨t, -, hgrid⟩ | ⟨n, -, rfl⟩
  · exact (onGrid?_bounds hm hgrid).2.1
  · exact exact_ne_zero hm p n

/-- A neighbour of a moderate number on a grid that is not too coarse is moderate. -/
theorem lead_onGrid?_le (hm : m ≠ 0) (h : m * Nat.pow 2 p ≤ 2 ^ 200 * unit) (ht : t ≤ 62)
    (hgrid : onGrid? tie m p t = .some x) : x.lead ≤ 63 := by
  obtain ⟨rfl, hne, hle⟩ := onGrid?_bounds hm hgrid
  refine ScaledDigits.lead_le hne ?_
  simp only [tenPow, Nat.pow_eq] at hle h
  generalize hup : 10 ^ x.exponent.toNat = up at hle
  generalize hdown : 10 ^ (-x.exponent).toNat = down at hle
  have hdown_pos : 0 < down := hdown ▸ Nat.pow_pos (by decide)
  have hcoarse : up ≤ 10 ^ 62 * down := by
    rw [← hup, ← hdown, ← Nat.pow_add]
    exact Nat.pow_le_pow_right (by decide) (by omega)
  have hfloor : m * 2 ^ p * down / (unit * up) * up ≤ 2 ^ 200 * down := by
    rw [← Nat.div_div_eq_div_mul]
    refine (Nat.div_mul_le_self _ _).trans (Nat.div_le_of_le_mul ?_)
    calc m * 2 ^ p * down ≤ 2 ^ 200 * unit * down := Nat.mul_le_mul_right _ h
      _ = unit * (2 ^ 200 * down) := by rw [Nat.mul_comm (2 ^ 200) unit, Nat.mul_assoc]
  calc x.digits * up ≤ (m * 2 ^ p * down / (unit * up) + 1) * up := Nat.mul_le_mul_right _ hle
    _ = m * 2 ^ p * down / (unit * up) * up + up := by rw [Nat.add_mul, Nat.one_mul]
    _ ≤ 2 ^ 200 * down + 10 ^ 62 * down := Nat.add_le_add hfloor hcoarse
    _ < 10 ^ 63 * down := by omega

/-- The exact value of a moderate number is moderate; its digits are the number of units times a
power of five. -/
theorem lead_exact_le {n : Nat} (hunit : unit ≤ 2 ^ n) (hm : m ≠ 0) (h : m * Nat.pow 2 p ≤ 2 ^ 200 * unit) :
    (ScaledDigits.mk (m * Nat.pow 2 p * Nat.pow 5 n) (-n)).lead ≤ 63 := by
  have hlt : m * Nat.pow 2 p * 5 ^ n < 10 ^ 63 * 10 ^ n := by
    calc m * Nat.pow 2 p * 5 ^ n ≤ 2 ^ 200 * 2 ^ n * 5 ^ n :=
        Nat.mul_le_mul_right _ (h.trans (Nat.mul_le_mul_left _ hunit))
      _ = 2 ^ 200 * 10 ^ n := by rw [Nat.mul_assoc, ← Nat.mul_pow]
      _ < 10 ^ 63 * 10 ^ n := Nat.mul_lt_mul_of_pos_right (by decide) (Nat.pow_pos (by decide))
  exact ScaledDigits.lead_le (exact_ne_zero hm p n) (by simpa using hlt)

/-- A moderate number is written with at most 63 digits before its point. -/
theorem lead_shortest_le (tie : Tie) (hm : m ≠ 0) (h : m * Nat.pow 2 p ≤ 2 ^ 200 * unit) :
    (shortest tie m p).lead ≤ 63 := by
  obtain ⟨x, hx, hcases⟩ := shortest_cases tie m p
  rw [hx, lead_strip]
  rcases hcases with ⟨t, ht, hgrid⟩ | ⟨n, hunit, rfl⟩
  · have hlarge : m * Nat.pow 2 p < 2 ^ 1275 :=
      (h.trans (Nat.mul_le_mul_left _ unit_le)).trans_lt (mul_two_pow_lt (Nat.le_refl _) (by decide))
    have hlead := leadExponent_le hlarge unit
    rw [log2_unit] at hlead
    exact lead_onGrid?_le hm h (by omega) hgrid
  · exact lead_exact_le hunit hm h

end Binary64
end MarketSearch
