/-
Numerals read back: the digits that a natural number is written with have its
value (`Numeral.value?_inBase`).
-/
import MarketSearch.Numeral

namespace MarketSearch
namespace Numeral

/-! ## Digits -/

theorem digitValue?_digitChar : ∀ base ≤ 16, ∀ d < base, digitValue? base (digitChar d) = .some d := by
  decide

theorem isDigit_digitChar : ∀ d < 10, (digitChar d).isDigit = true := by decide

theorem toNat_lt_of_digitValue? {base : Nat} {c : Char} (h : (digitValue? base c).isSome = true) :
    c.toNat < 128 := by
  refine Classical.byContradiction fun hlarge => ?_
  have hdecimal : ¬(48 ≤ c.toNat ∧ c.toNat ≤ 57) := by omega
  have hlower : ¬(97 ≤ c.toNat ∧ c.toNat ≤ 102) := by omega
  have hupper : ¬(65 ≤ c.toNat ∧ c.toNat ≤ 70) := by omega
  simp [digitValue?, hdecimal, hlower, hupper] at h

/-- What has a value consists of digits. -/
theorem isSome_digitValue?_of_value? {base n : Nat} {cs : List Char} (h : value? base cs = .some n) :
    ∀ c ∈ cs, (digitValue? base c).isSome = true := by
  have hfrom : ∀ {acc m : Nat}, valueFrom base acc cs = .some m → ∀ c ∈ cs, (digitValue? base c).isSome = true := by
    clear h
    induction cs with
    | nil => simp
    | cons c cs ih =>
      intro acc m h
      obtain ⟨d, hd, hrest⟩ := Option.bind_eq_some_iff.mp h
      exact List.forall_mem_cons.mpr ⟨Option.isSome_of_mem hd, ih hrest⟩
  unfold value? at h
  split at h
  · cases h
  · exact hfrom h

/-! ## Written numbers -/

theorem inBase_ne_nil (b n : Nat) : inBase b n ≠ [] := by
  unfold inBase
  split <;> simp

theorem digits_ne_nil (n : Nat) : digits n ≠ [] := inBase_ne_nil 8 n

/-- What holds of the digits of a base holds of all characters of a number. -/
theorem forall_mem_inBase {P : Char → Prop} {b : Nat} (h : ∀ d < b + 2, P (digitChar d)) (n : Nat) :
    ∀ c ∈ inBase b n, P c := by
  fun_induction inBase b n with
  | case1 n hn => simpa using h n hn
  | case2 n hn ih =>
    have hlast : n % (b + 2) < b + 2 := Nat.mod_lt _ (by omega)
    intro c hc
    rcases List.mem_append.mp hc with hc | hc
    · exact ih c hc
    · rw [List.mem_singleton.mp hc]
      exact h _ hlast

theorem isDigit_of_mem_digits {n : Nat} {c : Char} (h : c ∈ digits n) : c.isDigit = true :=
  forall_mem_inBase (P := fun c => c.isDigit = true) isDigit_digitChar n c h

theorem digits_push {m d : Nat} (hm : 0 < m) (hd : d < 10) : digits (10 * m + d) = digits m ++ [digitChar d] := by
  have hdiv : (10 * m + d) / 10 = m := by omega
  have hmod : (10 * m + d) % 10 = d := by omega
  rw [digits, inBase, if_neg (by omega), hdiv, hmod, digits]

theorem digits_zero : digits 0 = ['0'] := by simp [digits, inBase, digitChar]

/-- A number other than zero does not begin with a zero. -/
theorem head?_digits {n : Nat} (h : n ≠ 0) : (digits n).head? ≠ .some '0' := by
  have hdigit : ∀ d < 10, d ≠ 0 → digitChar d ≠ '0' := by decide
  unfold digits
  fun_induction inBase 8 n with
  | case1 n hn => simpa using hdigit n hn h
  | case2 n hn ih =>
    have hfront := ih (by omega)
    intro hzero
    rw [List.head?_append] at hzero
    rcases Option.or_eq_some_iff.mp hzero with hzero | ⟨hnil, -⟩
    · exact hfront hzero
    · exact inBase_ne_nil 8 _ (List.head?_eq_none_iff.mp hnil)

/-- A number below a power of the base has no more digits than that. -/
theorem length_inBase_le {b n k : Nat} (h : n < Nat.pow (b + 2) k) (hk : k ≠ 0) : (inBase b n).length ≤ k := by
  fun_induction inBase b n generalizing k with
  | case1 n hn =>
    rw [List.length_singleton]
    omega
  | case2 n hn ih =>
    obtain ⟨k, rfl⟩ := Nat.exists_eq_add_one_of_ne_zero hk
    have hfront : n / (b + 2) < Nat.pow (b + 2) k := Nat.div_lt_of_lt_mul (Nat.mul_comm .. ▸ h)
    have hk' : k ≠ 0 := by
      rintro rfl
      have hone : n < 1 * (b + 2) := h
      omega
    rw [List.length_append, List.length_singleton]
    exact Nat.succ_le_succ (ih hfront hk')

theorem length_digits_le {n k : Nat} (h : n < Nat.pow 10 k) (hk : k ≠ 0) : (digits n).length ≤ k :=
  length_inBase_le h hk

/-! ## Reading -/

theorem valueFrom_append (base acc : Nat) (cs ds : List Char) :
    valueFrom base acc (cs ++ ds) = (valueFrom base acc cs).bind fun n => valueFrom base n ds := by
  induction cs generalizing acc with
  | nil => rfl
  | cons c cs ih =>
    simp only [List.cons_append, valueFrom]
    cases digitValue? base c with
    | none => rfl
    | some d => exact ih _

/-- The digits of a number in a base up to sixteen are read as the number. -/
theorem value?_inBase {b : Nat} (hb : b + 2 ≤ 16) (n : Nat) : value? (b + 2) (inBase b n) = .some n := by
  have hvalue : valueFrom (b + 2) 0 (inBase b n) = .some n := by
    fun_induction inBase b n with
    | case1 n hn => simp [valueFrom, digitValue?_digitChar _ hb _ hn]
    | case2 n hn ih =>
      have hlast : n % (b + 2) < b + 2 := Nat.mod_lt _ (by omega)
      rw [valueFrom_append, ih]
      simp [valueFrom, digitValue?_digitChar _ hb _ hlast, Nat.div_add_mod]
  rw [value?, if_neg (by simpa using inBase_ne_nil b n), hvalue]

theorem value?_digits (n : Nat) : value? 10 (digits n) = .some n := value?_inBase (by decide) n

theorem digits_inj {m n : Nat} : digits m = digits n ↔ m = n := by
  refine ⟨fun h => ?_, congrArg digits⟩
  have hread := congrArg (value? 10) h
  rwa [value?_digits, value?_digits, Option.some.injEq] at hread

end Numeral
end MarketSearch
