/-
Runs of searches: filters that are answered one after the other.

A valid filter has every registered source fetched once, and a filter that
breaks the rules has none fetched; which of three answers a filter gets depends
on its validity and on what the sources contribute in time
(`SearchEngine.answered_search`).  A run is a sequence of such steps, where each
step finds every source fetched as often as there were valid filters before it
(`SearchEngine.answered_of_run`), so that the behaviour of a source may depend
on how often it was fetched.
-/
import MarketSearch.Proofs.Contribution

namespace MarketSearch
theorem Source.nodup_all : Source.all.Nodup := by decide

namespace SearchEngine

variable {e : SearchEngine} {turn : Nat} {f : Filter}

/-! ## Sources fetched -/

/-- How often a source is fetched in the course of some searches. -/
def fetches (run : List Searched) (s : Source) : Nat := (run.flatMap (·.asked)).count s

/-- How many of some filters are valid. -/
def accepted (fs : List Filter) : Nat := fs.countP fun f => f.validate = .ok ()

theorem sources_nodup (r : Registry) : r.sources.Nodup := Source.nodup_all.sublist List.filter_sublist

theorem sources_of_calls (e : SearchEngine) (turn : Nat) (f : Filter) :
    (e.calls turn f).map (·.source) = e.registry.sources := by
  rw [calls, List.map_map, ← Registry.source_adapters]
  rfl

theorem asked_of_search (e : SearchEngine) (turn : Nat) (f : Filter) :
    (e.search turn f).asked = if f.validate = .ok () then e.registry.sources else [] := by
  unfold search
  cases hf : f.validate with
  | error v => simp
  | ok u => simpa using sources_of_calls e turn f

/-- One search fetches each registered source once if the filter is valid, and none otherwise. -/
theorem count_asked (e : SearchEngine) (turn : Nat) (f : Filter) (s : Source) :
    (e.search turn f).asked.count s =
      if f.validate = .ok () ∧ (e.registry.get? s).isSome then 1 else 0 := by
  rw [asked_of_search]
  by_cases hf : f.validate = .ok ()
  · simp only [hf, if_true, true_and, ← Registry.mem_sources, (sources_nodup _).count]
  · simp [hf]

/-! ## One step -/

theorem gathered_of_isEmpty (h : e.registry.isEmpty) : e.gathered turn f = [] := by
  have hnone : ∀ s, e.registry.get? s = .none := by
    intro s
    rw [Registry.isEmpty, List.isEmpty_iff] at h
    have hs : s ∉ e.registry.sources := by simp [h]
    simpa [Registry.mem_sources] using hs
  simp only [gathered, List.flatMap_eq_nil_iff]
  intro s _
  simp only [contribution, batch?, hnone, Option.bind_none]

/-- What is answered to a filter, where `turn` valid filters came before it. -/
structure Answered (e : SearchEngine) (turn : Nat) (f : Filter) (r : Searched) : Prop where
  /-- Every registered source is fetched once for a valid filter, and none for another. -/
  asked : ∀ s, r.asked.count s = if f.validate = .ok () ∧ (e.registry.get? s).isSome then 1 else 0
  /-- A filter that breaks the rules is refused, and no other. -/
  refused : ∀ m, r.result = .error (.invalidInput m) ↔ f.validate ≠ .ok () ∧ m = "INVALID: " ++ f.text
  /-- Nothing is found for a valid filter when no source has contributed a product in time. -/
  nothing : ∀ m, r.result = .error (.notFound m) ↔
    f.validate = .ok () ∧ e.gathered turn f = [] ∧ m = "No product found for query: " ++ f.query
  /-- There is a report when a source has. -/
  found : (∃ report, r.result = .ok report) ↔ f.validate = .ok () ∧ e.gathered turn f ≠ []
  /-- Without any source, no valid filter finds anything. -/
  bare : e.registry.isEmpty → f.validate = .ok () → r.result = .error (.noProduct f.query)

/-- A search is refused, or finds nothing, or reports the products that the limit leaves. -/
theorem search_cases (e : SearchEngine) (turn : Nat) (f : Filter) :
    (f.validate ≠ .ok () ∧ (e.search turn f).result = .error (.invalidFilter f)) ∨
    (f.validate = .ok () ∧ e.gathered turn f = [] ∧
      (e.search turn f).result = .error (.noProduct f.query)) ∨
    (f.validate = .ok () ∧ e.gathered turn f ≠ [] ∧ ∃ report, (e.search turn f).result = .ok report ∧
      report.products = e.truncate (Product.sort e.key f.direction (e.gathered turn f))) := by
  by_cases hf : f.validate = .ok ()
  · have hresult := @search_result_of_valid e turn f hf
    by_cases hnone : e.gathered turn f = []
    · rw [if_pos (by simp [hnone])] at hresult
      exact .inr (.inl ⟨hf, hnone, hresult⟩)
    · rw [if_neg (by simpa using hnone)] at hresult
      exact .inr (.inr ⟨hf, hnone, _, hresult, rfl⟩)
  · refine .inl ⟨hf, ?_⟩
    unfold search
    cases hv : f.validate with
    | error v => rfl
    | ok u => exact absurd hv hf

theorem answered_search (e : SearchEngine) (turn : Nat) (f : Filter) :
    Answered e turn f (e.search turn f) := by
  have hasked := count_asked e turn f
  rcases search_cases e turn f with ⟨hf, hresult⟩ | ⟨hf, hnone, hresult⟩ | ⟨hf, hsome, report, hresult, -⟩
  · exact
      { asked := hasked
        refused := fun m => by simp [hresult, hf, SearchError.invalidFilter, SearchError.invalid, eq_comm]
        nothing := fun m => by simp [hresult, hf, SearchError.invalidFilter, SearchError.invalid]
        found := by simp [hresult, hf]
        bare := fun _ hvalid => absurd hvalid hf }
  · exact
      { asked := hasked
        refused := fun m => by simp [hresult, hf, SearchError.noProduct]
        nothing := fun m => by simp [hresult, hf, hnone, SearchError.noProduct, eq_comm]
        found := by simp [hresult, hnone]
        bare := fun _ _ => hresult }
  · exact
      { asked := hasked
        refused := fun m => by simp [hresult, hf]
        nothing := fun m => by simp [hresult, hsome]
        found := by simp [hresult, hf, hsome]
        bare := fun hempty _ => absurd (gathered_of_isEmpty hempty) hsome }

/-! ## Runs -/

theorem turnAfter_eq (turn : Nat) (f : Filter) : turnAfter turn f = turn + accepted [f] := by
  unfold turnAfter accepted
  cases hf : f.validate <;> simp [hf]

/-- A run goes on where the valid filters before it have led. -/
theorem searchAll_append (e : SearchEngine) (turn : Nat) (fs gs : List Filter) :
    e.searchAll turn (fs ++ gs) = e.searchAll turn fs ++ e.searchAll (turn + accepted fs) gs := by
  induction fs generalizing turn with
  | nil => simp [searchAll, accepted]
  | cons f fs ih =>
    have hsplit : accepted (f :: fs) = accepted [f] + accepted fs := by
      rw [accepted, accepted, accepted, ← List.countP_append]
      rfl
    simp only [List.cons_append, searchAll, ih, turnAfter_eq, hsplit, Nat.add_assoc]

theorem length_searchAll (e : SearchEngine) (turn : Nat) (fs : List Filter) :
    (e.searchAll turn fs).length = fs.length := by
  induction fs generalizing turn with
  | nil => rfl
  | cons f fs ih => simp [searchAll, ih]

/-- In a run, every registered source is fetched as often as there are valid filters. -/
theorem fetches_searchAll (e : SearchEngine) (turn : Nat) (fs : List Filter) (s : Source) :
    fetches (e.searchAll turn fs) s = if (e.registry.get? s).isSome then accepted fs else 0 := by
  induction fs generalizing turn with
  | nil => simp [searchAll, fetches, accepted]
  | cons f fs ih =>
    have hstep : fetches (e.searchAll turn (f :: fs)) s =
        (e.search turn f).asked.count s + fetches (e.searchAll (turnAfter turn f) fs) s := by
      simp [searchAll, fetches]
    rw [hstep, count_asked, ih]
    by_cases hf : f.validate = .ok () <;> by_cases hs : (e.registry.get? s).isSome <;>
      simp [accepted, hf, hs, Nat.add_comm]

/-- **Every filter of a run is answered by itself.** Whatever filters come before one and after it,
the answer in its place is the one that it gets from sources that have been fetched once for each
valid filter before it. -/
theorem answered_of_run (e : SearchEngine) (before : List Filter) (f : Filter) (after : List Filter) :
    (∃ r rest, e.searchAll 0 (before ++ f :: after) = e.searchAll 0 before ++ r :: rest ∧
      (e.searchAll 0 before).length = before.length ∧ rest.length = after.length ∧
      Answered e (accepted before) f r) ∧
    ∀ s,
      fetches (e.searchAll 0 before) s = (if (e.registry.get? s).isSome then accepted before else 0) ∧
      fetches (e.searchAll 0 (before ++ f :: after)) s =
        if (e.registry.get? s).isSome then accepted (before ++ f :: after) else 0 := by
  refine ⟨⟨_, _, searchAll_append e 0 before (f :: after), length_searchAll .., length_searchAll .., ?_⟩,
    fun s => ⟨fetches_searchAll .., fetches_searchAll ..⟩⟩
  rw [Nat.zero_add]
  exact answered_search e (accepted before) f

end SearchEngine
end MarketSearch
