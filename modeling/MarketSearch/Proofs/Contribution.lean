/-
What a search owes to each source, and that it owes it nothing else.

A source contributes products when its answer comes in time, and none when it
is late, fails, or is not registered.  The answer of a search is a function of
these contributions (`aggregate_of_valid`): they are joined in the canonical
order of the sources, and everything that the engine does afterwards looks at
the joined list only.  So two searches in which every source contributes the
same have the same answer (`aggregate_eq_of_contribution_eq`), and where one
source falls silent, exactly its products are missing (`aggregate_of_silent`).
-/
import Mathlib.Data.List.Basic
import MarketSearch.Proofs.Binding
import MarketSearch.Proofs.Order
import MarketSearch.Proofs.Registration
import MarketSearch.Search

namespace MarketSearch

/-! ## Replies -/

namespace Reply

variable {α : Type} {r : Reply α} {limit : Nat}

/-- What a reply brings to someone who waits `limit` milliseconds. -/
def inTime? (r : Reply α) (limit : Nat) : Option α :=
  if r.delay ≤ limit then r.answer.toOption else .none

/-- Late, or a fault. -/
def IsLost (r : Reply α) (limit : Nat) : Prop := limit < r.delay ∨ ∃ x, r.answer = .error x

theorem inTime?_of_isLost (h : r.IsLost limit) : r.inTime? limit = .none := by
  unfold inTime?
  rcases h with h | ⟨x, h⟩
  · rw [if_neg (by omega)]
  · simp [h, Except.toOption]

theorem answer_of_inTime? {a : α} (h : r.inTime? limit = .some a) : r.answer = .ok a := by
  unfold inTime? at h
  split at h
  · exact toOption_eq_some_iff.mp h
  · cases h

theorem toOption_within (r : Reply α) (s : Source) (limit : Nat) :
    (r.within s limit).toOption = r.inTime? limit := by
  unfold within inTime?
  by_cases h : limit < r.delay
  · rw [if_pos h, if_neg (by omega)]
    rfl
  · rw [if_neg h, if_pos (by omega)]

end Reply

namespace SearchEngine

/-! ## Outcomes and contributions -/

/-- What comes of asking a source, if it is registered. -/
def outcome? (e : SearchEngine) (turn : Nat) (f : Filter) (s : Source) :
    Option (Except SourceFault Batch) :=
  (e.registry.get? s).map fun a => (a.fetch turn f).within s e.timeout

/-- What comes of asking every registered source, in canonical order. -/
def outcomes (e : SearchEngine) (turn : Nat) (f : Filter) : List (Except SourceFault Batch) :=
  Source.all.filterMap (e.outcome? turn f)

/-- The batch of a source, where there is one in time. -/
def batch? (e : SearchEngine) (turn : Nat) (f : Filter) (s : Source) : Option Batch :=
  (e.registry.get? s).bind fun a => (a.fetch turn f).inTime? e.timeout

/-- The products of the batch of a source, where there is one in time. -/
def contribution (e : SearchEngine) (turn : Nat) (f : Filter) (s : Source) : List Product :=
  match e.batch? turn f s with
  | .some b => b.products
  | .none => []

/-- The contributions of all sources, in canonical order. -/
def gathered (e : SearchEngine) (turn : Nat) (f : Filter) : List Product :=
  Source.all.flatMap (e.contribution turn f)

/-- What a search answers: its products, without the report on how they came about. -/
def aggregate (e : SearchEngine) (turn : Nat) (f : Filter) : Except SearchError (List Product) :=
  (e.search turn f).result.map SearchReport.products

variable {e e' : SearchEngine} {turn turn' : Nat} {f : Filter}

/-- Each source is asked once, and what comes of it is in the place of the source. -/
theorem outcomes_eq (e : SearchEngine) (turn : Nat) (f : Filter) :
    (e.calls turn f).map (Call.outcome e.timeout) = e.outcomes turn f := by
  simp only [calls, outcomes, Registry.adapters, List.map_filterMap]
  refine List.filterMap_congr fun s _ => ?_
  cases h : e.registry.get? s with
  | none => simp [outcome?, h]
  | some a =>
    obtain rfl := e.registry.source_of_get? h
    simp [outcome?, h, Call.outcome]

theorem toOption_outcome? (e : SearchEngine) (turn : Nat) (f : Filter) (s : Source) :
    (e.outcome? turn f s).bind Except.toOption = e.batch? turn f s := by
  unfold outcome? batch?
  cases e.registry.get? s with
  | none => rfl
  | some a => exact Reply.toOption_within _ s _

theorem batches_outcomes (e : SearchEngine) (turn : Nat) (f : Filter) :
    batches (e.outcomes turn f) = Source.all.filterMap (e.batch? turn f) := by
  simp only [batches, outcomes, List.filterMap_filterMap]
  refine List.filterMap_congr fun s _ => ?_
  rw [← toOption_outcome?]
  refine Option.bind_congr fun o _ => ?_
  cases o <;> rfl

theorem flatMap_batches (e : SearchEngine) (turn : Nat) (f : Filter) :
    (batches (e.outcomes turn f)).flatMap (·.products) = e.gathered turn f := by
  rw [batches_outcomes, List.filterMap_eq_flatMap_toList, List.flatMap_assoc, gathered]
  refine List.flatMap_congr fun s _ => ?_
  unfold contribution
  cases e.batch? turn f s <;> simp

theorem search_result_of_valid (hf : f.validate = .ok ()) :
    (e.search turn f).result =
      if (e.gathered turn f).isEmpty then .error (.noProduct f.query)
      else
        .ok
          { products := e.truncate (Product.sort e.key f.direction (e.gathered turn f))
            queried := (e.outcomes turn f).length
            failures := failures (e.outcomes turn f)
            dropped := (batches (e.outcomes turn f)).foldl (fun n b => n + b.dropped) 0 } := by
  simp only [search, hf, report, outcomes_eq, flatMap_batches]

/-- **The answer of a search is a function of what the sources contribute.** -/
theorem aggregate_of_valid (hf : f.validate = .ok ()) :
    e.aggregate turn f =
      if (e.gathered turn f).isEmpty then .error (.noProduct f.query)
      else .ok (e.truncate (Product.sort e.key f.direction (e.gathered turn f))) := by
  rw [aggregate, search_result_of_valid hf]
  split <;> rfl

/-! ## Two runs -/

theorem gathered_congr (h : ∀ s, e.contribution turn f s = e'.contribution turn' f s) :
    e.gathered turn f = e'.gathered turn' f :=
  List.flatMap_congr fun s _ => h s

/-- **Only contributions show.** Two engines that sort and cut off alike give the same answer to a
valid filter when every source contributes the same products to both, whatever is different
besides: how long the sources take and are given, which of them are registered, and what becomes
of those that give nothing.  The order of registration makes no difference either. -/
theorem aggregate_eq_of_contribution_eq :
    (∀ {e e' : SearchEngine} {turn turn' : Nat} {f : Filter}, e.key = e'.key →
      e.maxProducts = e'.maxProducts → f.validate = .ok () →
      (∀ s, e.contribution turn f s = e'.contribution turn' f s) →
      e.aggregate turn f = e'.aggregate turn' f) ∧
    ∀ {as as' : List Adapter} {r : Registry}, as.Perm as' → Registry.empty.registerAll as = .ok r →
      ∃ r', Registry.empty.registerAll as' = .ok r' ∧ ∀ key timeout maxProducts turn f,
        aggregate ⟨r', key, timeout, maxProducts⟩ turn f =
          aggregate ⟨r, key, timeout, maxProducts⟩ turn f := by
  refine ⟨fun {e e' turn turn' f} hkey hmax hf h => ?_, fun {as as' r} hp hr => ?_⟩
  · rw [aggregate_of_valid hf, aggregate_of_valid hf, gathered_congr h, hkey]
    simp only [truncate, hmax]
  · exact ⟨r, Registry.registerAll_perm hp hr, fun _ _ _ _ _ => rfl⟩

/-- Tiki with one product, after some milliseconds. -/
def tikiAfter (delay : Nat) : Adapter :=
  (Binding.sending .tiki delay [.draft "1" "iphone" .tiki]).adapter

/-- Tiki alone and at once; or slower, beside a source that fails and one that is late. -/
theorem aggregate_eq_of_failing_and_late :
    aggregate ⟨Registry.empty.put (tikiAfter 0), .price, 0, .some 5⟩ 0 ⟨"iphone", .descending⟩ =
      aggregate ⟨((Registry.empty.put (Binding.failing .shopee).adapter).put
        (Binding.sending .lazada 51 [.draft "2" "iphone" .lazada]).adapter).put (tikiAfter 50),
          .price, 50, .some 5⟩ 3 ⟨"iphone", .descending⟩ ∧
    ∃ r', Registry.empty.registerAll [(Binding.failing .shopee).adapter, tikiAfter 50] = .ok r' ∧
      ∀ key timeout maxProducts turn f,
        aggregate ⟨r', key, timeout, maxProducts⟩ turn f =
          aggregate ⟨(Registry.empty.put (tikiAfter 50)).put (Binding.failing .shopee).adapter,
            key, timeout, maxProducts⟩ turn f :=
  ⟨aggregate_eq_of_contribution_eq.1 rfl rfl (by decide) fun s => by cases s <;> rfl,
    aggregate_eq_of_contribution_eq.2 (.swap ..) rfl⟩

/-! ## One source less -/

/-- The products of an answer, of which there are none where nothing was found. -/
def found (answer : Except SearchError (List Product)) : List Product := answer.toOption.getD []

theorem source_of_mem_contribution (hb : e.registry.IsBound) {s : Source} {p : Product}
    (hp : p ∈ e.contribution turn f s) : p.source = s := by
  unfold contribution at hp
  split at hp
  · next b hbatch =>
    obtain ⟨a, ha, hr⟩ := Option.bind_eq_some_iff.mp hbatch
    exact hb.source_of_mem ha (Reply.answer_of_inTime? hr) hp
  · simp at hp

/-- Where one source is silent, what is gathered is what the others contribute. -/
theorem gathered_of_silent (hb : e.registry.IsBound) {s : Source} (hs : e'.contribution turn f s = [])
    (hothers : ∀ t, t ≠ s → e'.contribution turn f t = e.contribution turn f t) :
    e'.gathered turn f = (e.gathered turn f).filter (·.source != s) := by
  rw [gathered, gathered, List.filter_flatMap]
  refine List.flatMap_congr fun t _ => ?_
  by_cases ht : t = s
  · subst ht
    rw [hs, eq_comm, List.filter_eq_nil_iff]
    intro p hp
    simp [source_of_mem_contribution hb hp]
  · rw [hothers t ht, eq_comm, List.filter_eq_self]
    intro p hp
    simpa [source_of_mem_contribution hb hp] using ht

theorem found_aggregate (hf : f.validate = .ok ()) (hmax : e.maxProducts = .none) :
    found (e.aggregate turn f) = Product.sort e.key f.direction (e.gathered turn f) := by
  rw [aggregate_of_valid hf]
  split
  · next h =>
    rw [List.isEmpty_iff.mp h, Product.sort_eq_nil_iff.mpr rfl]
    rfl
  · simp [found, truncate, hmax, Except.toOption]

/-- **A source that falls silent takes its own products with it and nothing else.** When it is late,
fails or is no longer registered, the answer is what it was without the products of the source,
in the order they had, and nothing is found exactly when none of them is left. -/
theorem aggregate_of_silent {r : Registry} {s : Source} (hb : e.registry.IsBound)
    (hmax : e.maxProducts = .none) (hf : f.validate = .ok ())
    (hothers : ∀ t, t ≠ s → r.get? t = e.registry.get? t)
    (hs : ∀ a, r.get? s = .some a → (a.fetch turn f).IsLost e.timeout) :
    aggregate { e with registry := r } turn f =
      if (found (e.aggregate turn f)).filter (·.source != s) = [] then .error (.noProduct f.query)
      else .ok ((found (e.aggregate turn f)).filter (·.source != s)) := by
  have hsilent : contribution { e with registry := r } turn f s = [] := by
    have hnone : batch? { e with registry := r } turn f s = .none := by
      simp only [batch?, Option.bind_eq_none_iff]
      exact fun a ha => Reply.inTime?_of_isLost (hs a ha)
    simp only [contribution, hnone]
  have hgathered : gathered { e with registry := r } turn f = (e.gathered turn f).filter (·.source != s) :=
    gathered_of_silent hb hsilent fun t ht => by simp only [contribution, batch?, hothers t ht]
  rw [aggregate_of_valid hf, found_aggregate hf hmax, Product.filter_sort, hgathered]
  simp only [List.isEmpty_iff, Product.sort_eq_nil_iff, truncate, hmax]

/-- Lazada at once and Tiki after some milliseconds, where each is given ten. -/
def withTikiAfter (delay : Nat) : SearchEngine where
  registry := (Registry.empty.put
    (Binding.sending .lazada 0 [.draft "2" "iphone" .lazada]).adapter).put (tikiAfter delay)
  key := .name
  timeout := 10
  maxProducts := .none

theorem isHonest_withTikiAfter (delay : Nat) : (withTikiAfter delay).registry.IsHonest :=
  (Registry.isHonest_empty.put (Binding.sending_blamesItself _ _ _)).put
    (Binding.sending_blamesItself _ _ _)

theorem aggregate_of_late_tiki :
    let before := found ((withTikiAfter 10).aggregate 2 ⟨"iphone", .ascending⟩)
    aggregate { withTikiAfter 10 with registry := (withTikiAfter 11).registry } 2 ⟨"iphone", .ascending⟩ =
      if before.filter (·.source != .tiki) = [] then .error (.noProduct "iphone")
      else .ok (before.filter (·.source != .tiki)) :=
  @aggregate_of_silent (withTikiAfter 10) 2 ⟨"iphone", .ascending⟩ (withTikiAfter 11).registry .tiki
    (isHonest_withTikiAfter 10).isBound rfl (by decide)
    (fun t ht => by
      cases t with
      | tiki => exact absurd rfl ht
      | shopee | lazada => rfl)
    fun a ha => by
      cases ha
      exact .inl (by decide)

end SearchEngine
end MarketSearch
