/-
What bindings promise of their batches: every product in one bears the
binding's own source, whatever the client answers and whatever the mapper
makes of it.

A registry is bound when all its adapters come from bindings, and honest when
besides no client blames another source for its failures.
-/
import MarketSearch.Proofs.Except
import MarketSearch.Registry

namespace MarketSearch
namespace Binding

variable {ρ : Type} {b : Binding ρ}

theorem source_of_mapRecord {record : ρ} {p : Product} (h : b.mapRecord record = .ok p) :
    p.source = b.source := by
  unfold mapRecord at h
  split at h
  · split at h
    · next hs =>
      cases h
      exact hs
    · cases h
  · cases h

theorem source_of_mem_batch {records : List ρ} {p : Product} (h : p ∈ (b.batch records).products) :
    p.source = b.source := by
  induction records with
  | nil => simp [batch] at h
  | cons r rs ih =>
    unfold batch at h
    split at h
    · next q hq =>
      rcases List.mem_cons.mp h with rfl | h
      · exact source_of_mapRecord hq
      · exact ih h
    · exact ih h

/-- The client attributes its faults to its own source. -/
def BlamesItself (b : Binding ρ) : Prop :=
  ∀ turn f x, (b.fetch turn f).answer = .error x → x.origin = b.source

/-! ### Bindings for examples -/

/-- A source whose records are products already, and come after some milliseconds. -/
def sending (s : Source) (delay : Nat) (ps : List Product) : Binding Product :=
  ⟨s, fun _ _ => ⟨delay, .ok ps⟩, .ok⟩

/-- A source that cannot be reached. -/
def failing (s : Source) : Binding Product :=
  ⟨s, fun _ _ => ⟨0, .error (.unavailable s "refused")⟩, .ok⟩

theorem sending_blamesItself (s : Source) (delay : Nat) (ps : List Product) :
    (sending s delay ps).BlamesItself := fun _ _ _ h => by cases h

theorem failing_blamesItself (s : Source) : (failing s).BlamesItself := fun _ _ _ h => by
  cases h
  rfl

end Binding

/-! ## Registries of bindings -/

namespace Registry

/-- Every adapter comes from a binding. -/
def IsBound (r : Registry) : Prop :=
  ∀ s a, r.get? s = .some a → ∃ (ρ : Type) (b : Binding ρ), a = b.adapter

/-- Every adapter comes from a binding whose client blames itself. -/
def IsHonest (r : Registry) : Prop :=
  ∀ s a, r.get? s = .some a → ∃ (ρ : Type) (b : Binding ρ), a = b.adapter ∧ b.BlamesItself

theorem IsHonest.isBound {r : Registry} (h : r.IsHonest) : r.IsBound := fun s a ha => by
  obtain ⟨ρ, b, hb, -⟩ := h s a ha
  exact ⟨ρ, b, hb⟩

theorem isHonest_empty : empty.IsHonest := fun _ _ h => by cases h

theorem IsHonest.put {r : Registry} {ρ : Type} {b : Binding ρ} (h : r.IsHonest) (hb : b.BlamesItself) :
    (r.put b.adapter).IsHonest := fun s a ha => by
  by_cases hs : s = b.adapter.source
  · subst hs
    rw [get?_put_self, Option.some.injEq] at ha
    exact ⟨ρ, b, ha.symm, hb⟩
  · rw [get?_put_other _ hs] at ha
    exact h s a ha

theorem IsHonest.origin {r : Registry} (h : r.IsHonest) {s : Source} {a : Adapter}
    (ha : r.get? s = .some a) {turn : Nat} {f : Filter} {x : SourceFault}
    (hx : (a.fetch turn f).answer = .error x) : x.origin = s := by
  obtain ⟨ρ, b, rfl, hb⟩ := h s a ha
  exact (hb turn f x (map_eq_error_iff.mp hx)).trans (r.source_of_get? ha)

theorem IsBound.source_of_mem {r : Registry} (h : r.IsBound) {s : Source} {a : Adapter}
    (ha : r.get? s = .some a) {turn : Nat} {f : Filter} {batch : Batch}
    (hbatch : (a.fetch turn f).answer = .ok batch) {p : Product} (hp : p ∈ batch.products) :
    p.source = s := by
  obtain ⟨ρ, b, rfl⟩ := h s a ha
  obtain ⟨records, -, rfl⟩ := map_eq_ok_iff.mp hbatch
  exact (Binding.source_of_mem_batch hp).trans (r.source_of_get? ha)

end Registry
end MarketSearch
