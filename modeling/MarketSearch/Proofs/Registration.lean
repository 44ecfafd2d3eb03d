/-
Registration as a theory: a registry is what its look-ups say (`Registry.ext`),
and a list of adapters that can be registered at all leads to the same registry
in whatever order they come (`Registry.registerAll_perm`).

Adapters of different sources do not touch each other, and of one source only
the first is taken, so that a list that is accepted as a whole names no source
twice.
-/
import MarketSearch.Proofs.Except
import MarketSearch.Registry

namespace MarketSearch
namespace Registry

theorem ext {r r' : Registry} (h : ∀ s, r.get? s = r'.get? s) : r = r' := by
  cases r with
  | mk get? _ =>
    cases r' with
    | mk get?' _ =>
      obtain rfl : get? = get?' := funext h
      rfl

theorem source_adapters (r : Registry) : r.adapters.map (·.source) = r.sources := by
  unfold adapters sources
  induction Source.all with
  | nil => rfl
  | cons s ss ih =>
    cases ha : r.get? s with
    | none => simpa [ha] using ih
    | some a =>
      obtain rfl := r.source_of_get? ha
      simpa [ha] using ih

/-- A source is taken by the first adapter that names it, and by no later one. -/
theorem register_eq_ok_iff {r r' : Registry} {a : Adapter} :
    r.register a = .ok r' ↔ r.get? a.source = .none ∧ r' = r.put a := by
  unfold register
  split
  · next h =>
    obtain ⟨b, hb⟩ := Option.isSome_iff_exists.mp h
    simp [hb]
  · next h =>
    simp only [Bool.not_eq_true, Option.isSome_eq_false_iff, Option.isNone_iff_eq_none] at h
    simp [h, eq_comm]

theorem put_comm (r : Registry) {a b : Adapter} (h : a.source ≠ b.source) :
    (r.put a).put b = (r.put b).put a := by
  refine ext fun s => ?_
  by_cases ha : s = a.source
  · subst ha
    rw [get?_put_other _ h, get?_put_self, get?_put_self]
  by_cases hb : s = b.source
  · subst hb
    rw [get?_put_self, get?_put_other _ ha, get?_put_self]
  · rw [get?_put_other _ hb, get?_put_other _ ha, get?_put_other _ ha, get?_put_other _ hb]

theorem registerAll_cons_eq_ok_iff {r r' : Registry} {a : Adapter} {as : List Adapter} :
    r.registerAll (a :: as) = .ok r' ↔ r.get? a.source = .none ∧ (r.put a).registerAll as = .ok r' := by
  simp only [registerAll, List.foldlM_cons, bind_eq_ok_iff, register_eq_ok_iff]
  constructor
  · rintro ⟨_, ⟨ha, rfl⟩, h⟩
    exact ⟨ha, h⟩
  · rintro ⟨ha, h⟩
    exact ⟨_, ⟨ha, rfl⟩, h⟩

/-- What a registry holds after a run that is accepted as a whole: what it held before, and the
adapters of the run. -/
theorem get?_of_registerAll {as : List Adapter} {r r' : Registry} (h : r.registerAll as = .ok r')
    (s : Source) : r'.get? s = (r.get? s).or (as.find? fun a => a.source = s) := by
  induction as generalizing r with
  | nil =>
    cases h
    simp
  | cons a as ih =>
    obtain ⟨hnone, h⟩ := registerAll_cons_eq_ok_iff.mp h
    rw [ih h]
    by_cases hs : s = a.source
    · subst hs
      simp [get?_put_self, hnone]
    · rw [get?_put_other _ hs, List.find?_cons_of_neg (by simpa using Ne.symm hs)]

/-- **The order of registration does not matter.** -/
theorem registerAll_perm {as as' : List Adapter} (h : as.Perm as') :
    ∀ {r r' : Registry}, r.registerAll as = .ok r' → r.registerAll as' = .ok r' := by
  induction h with
  | nil => exact fun hr => hr
  | cons a _ ih =>
    intro r r' hr
    rw [registerAll_cons_eq_ok_iff] at hr ⊢
    exact ⟨hr.1, ih hr.2⟩
  | swap a b as =>
    intro r r' hr
    simp only [registerAll_cons_eq_ok_iff] at hr ⊢
    obtain ⟨hb, ha, hr⟩ := hr
    -- The second was accepted after the first, so it has another source.
    have hne : a.source ≠ b.source := fun he => by
      rw [he, get?_put_self] at ha
      cases ha
    rw [get?_put_other _ hne] at ha
    rw [get?_put_other _ hne.symm]
    exact ⟨ha, hb, r.put_comm hne ▸ hr⟩
  | trans _ _ ih₁ ih₂ => exact fun hr => ih₂ (ih₁ hr)

end Registry
end MarketSearch
