/-
The books of a search.

Every registered source is asked and either responds or is reported with one
fault; every record received is a product that survives or is counted as
dropped; and every product that survives is in the result or left out at its
end.  `SearchEngine.Accounted` states all of it, and
`SearchEngine.accounted_of_search` says that every report of a search is
accounted for, where no client blames another source for its failures.

The three kinds of outcome that a source can have (`outcome?_cases`) carry the
whole: what holds of one source is carried over the sources in their order.
-/
import Mathlib
import MarketSearch.Proofs.Contribution

namespace MarketSearch

/-! ## Counts by source -/

namespace Product

theorem sum_counts (ps : List Product) :
    (Source.all.map fun s => (ps.filter (·.source == s)).length).sum = ps.length := by
  induction ps with
  | nil => rfl
  | cons p ps ih =>
    simp only [Source.all, List.map_cons, List.map_nil, List.sum_cons, List.sum_nil] at ih ⊢
    cases hp : p.source <;> simp [hp] <;> omega

theorem sum_filter_ne_zero (cs : List (Source × Nat)) :
    ((cs.filter (·.2 != 0)).map (·.2)).sum = (cs.map (·.2)).sum := by
  induction cs with
  | nil => rfl
  | cons c cs ih =>
    by_cases hc : c.2 = 0
    · simpa [hc] using ih
    · simpa [hc] using ih

theorem sum_countBySource (ps : List Product) :
    ((countBySource ps).map (·.2)).sum = ps.length := by
  rw [countBySource, sum_filter_ne_zero, List.map_map]
  exact sum_counts ps

theorem exists_of_mem_countBySource {ps : List Product} {c : Source × Nat}
    (h : c ∈ countBySource ps) : ∃ p ∈ ps, p.source = c.1 := by
  simp only [countBySource, List.mem_filter, List.mem_map, bne_iff_ne] at h
  obtain ⟨⟨s, -, rfl⟩, hc⟩ := h
  obtain ⟨p, hp⟩ := List.exists_mem_of_length_pos (Nat.pos_of_ne_zero hc)
  simp only [List.mem_filter, beq_iff_eq] at hp
  exact ⟨p, hp⟩

end Product

namespace SearchEngine

variable {e : SearchEngine} {turn : Nat} {f : Filter}

/-! ## What is accounted for -/

/-- The sources whose batch came in time. -/
def responders (e : SearchEngine) (turn : Nat) (f : Filter) : List Source :=
  Source.all.filter fun s => (e.batch? turn f s).isSome

/-- The registered sources of which no batch came in time. -/
def silent (e : SearchEngine) (turn : Nat) (f : Filter) : List Source :=
  e.registry.sources.filter fun s => (e.batch? turn f s).isNone

/-- The fault to report of a source: that it is late, or else the fault it answers with. -/
def IsFaultOf (e : SearchEngine) (turn : Nat) (f : Filter) (s : Source) (x : SourceFault) : Prop :=
  ∃ a, e.registry.get? s = .some a ∧
    if e.timeout < (a.fetch turn f).delay then x = .timeout s (.some e.timeout)
    else (a.fetch turn f).answer = .error x

/-- The books of a report are balanced. -/
structure Accounted (e : SearchEngine) (turn : Nat) (f : Filter) (report : SearchReport) : Prop where
  /-- Every registered source is asked. -/
  queried : report.queried = e.registry.size
  /-- Those that fail are some of those asked, and the others respond. -/
  balanced : report.responded + report.failures.length = report.queried
  responded : report.responded = (e.responders turn f).length
  /-- One fault for each source that does not respond, in canonical order. -/
  failures : List.Forall₂ (e.IsFaultOf turn f) (e.silent turn f) report.failures
  failedSources : report.failedSources = e.silent turn f
  ascending : report.failedSources.Pairwise fun s t => s.compare t = .lt
  /-- A record is a product that survives, or dropped. -/
  records : report.dropped + (e.gathered turn f).length =
    ((Source.all.filterMap (e.batch? turn f)).map Batch.received).sum
  /-- The result is the beginning of all that survives, once sorted; nothing that is left out comes
  before anything that is not. -/
  products : ∃ rest,
    (report.products ++ rest).Perm (e.gathered turn f) ∧
    (report.products ++ rest).Pairwise (fun p q => (Product.order e.key f.direction p q).isLE) ∧
    report.products ++ rest = Product.sort e.key f.direction (e.gathered turn f) ∧
    report.products.length =
      min (e.maxProducts.getD (e.gathered turn f).length) (e.gathered turn f).length ∧
    ∀ p ∈ report.products, ∀ q ∈ rest, Product.order e.key f.direction q p ≠ .lt
  /-- Another limit would have changed the products and nothing else. -/
  diagnostics : ∀ maxProducts, ∃ ps,
    (search { e with maxProducts := maxProducts } turn f).result = .ok { report with products := ps }
  /-- Only sources that respond are counted, and every product in the result is counted once. -/
  counted : ∀ c ∈ Product.countBySource report.products, c.1 ∈ e.responders turn f
  total : ((Product.countBySource report.products).map (·.2)).sum = report.products.length

/-! ## One source -/

/-- A source is not registered, or responds with its batch, or has a fault to be reported. -/
theorem outcome?_cases (e : SearchEngine) (turn : Nat) (f : Filter) (s : Source) :
    (e.registry.get? s = .none ∧ e.outcome? turn f s = .none) ∨
    ((e.registry.get? s).isSome ∧
      ((∃ b, e.outcome? turn f s = .some (.ok b) ∧ e.batch? turn f s = .some b) ∨
        ∃ x, e.outcome? turn f s = .some (.error x) ∧ e.batch? turn f s = .none ∧
          e.IsFaultOf turn f s x)) := by
  unfold outcome? batch? IsFaultOf
  cases ha : e.registry.get? s with
  | none => exact .inl ⟨rfl, rfl⟩
  | some a =>
    refine .inr ⟨rfl, ?_⟩
    simp only [Option.map_some, Option.bind_some, Option.some.injEq, Reply.within, Reply.inTime?]
    by_cases hlate : e.timeout < (a.fetch turn f).delay
    · exact .inr ⟨_, by rw [if_pos hlate], by rw [if_neg (by omega)], a, rfl, by rw [if_pos hlate]⟩
    · rw [if_neg hlate, if_pos (by omega)]
      cases hr : (a.fetch turn f).answer with
      | ok b => exact .inl ⟨b, rfl, rfl⟩
      | error x => exact .inr ⟨x, rfl, rfl, a, rfl, by rw [if_neg hlate, hr]⟩

/-! ## All sources -/

theorem length_outcomes (e : SearchEngine) (turn : Nat) (f : Filter) :
    (e.outcomes turn f).length = e.registry.size := by
  simp [outcomes, outcome?, Registry.size, Registry.sources, List.length_filterMap_eq_countP,
    List.countP_eq_length_filter]

theorem length_batches_add (os : List (Except SourceFault Batch)) :
    (batches os).length + (SearchEngine.failures os).length = os.length := by
  induction os with
  | nil => rfl
  | cons o os ih =>
    simp only [batches, SearchEngine.failures] at ih ⊢
    cases o <;> simp <;> omega

theorem length_responders (e : SearchEngine) (turn : Nat) (f : Filter) :
    (batches (e.outcomes turn f)).length = (e.responders turn f).length := by
  rw [batches_outcomes, List.length_filterMap_eq_countP, List.countP_eq_length_filter, responders]

theorem forall₂_failures (e : SearchEngine) (turn : Nat) (f : Filter) :
    List.Forall₂ (e.IsFaultOf turn f) (e.silent turn f) (SearchEngine.failures (e.outcomes turn f)) := by
  simp only [silent, Registry.sources, SearchEngine.failures, outcomes]
  induction Source.all with
  | nil => exact .nil
  | cons s ss ih =>
    rcases e.outcome?_cases turn f s with ⟨ha, ho⟩ | ⟨ha, ⟨b, ho, hb⟩ | ⟨x, ho, hb, hx⟩⟩
    · simpa [ha, ho] using ih
    · simpa [ha, ho, hb] using ih
    · simpa [ha, ho, hb] using And.intro hx ih

theorem dropped_add_length (bs : List Batch) :
    bs.foldl (fun n b => n + b.dropped) 0 + (bs.flatMap (·.products)).length =
      (bs.map Batch.received).sum := by
  have hfold : ∀ (bs : List Batch) n, bs.foldl (fun n b => n + b.dropped) n +
      (bs.flatMap (·.products)).length = n + (bs.map Batch.received).sum := by
    intro bs
    induction bs with
    | nil => simp
    | cons b bs ih =>
      intro n
      have := ih (n + b.dropped)
      simp only [List.foldl_cons, List.flatMap_cons, List.length_append, List.map_cons, List.sum_cons,
        Batch.received] at this ⊢
      omega
  simpa using hfold bs 0

theorem origin_of_isFaultOf (hh : e.registry.IsHonest) {s : Source} {x : SourceFault}
    (hx : e.IsFaultOf turn f s x) : x.origin = s := by
  obtain ⟨a, ha, hx⟩ := hx
  split at hx
  · rw [hx]
    rfl
  · exact hh.origin ha hx

theorem origins_eq_silent (hh : e.registry.IsHonest) :
    (SearchEngine.failures (e.outcomes turn f)).map SourceFault.origin = e.silent turn f := by
  have h := forall₂_failures e turn f
  generalize SearchEngine.failures (e.outcomes turn f) = xs at h ⊢
  generalize e.silent turn f = ss at h ⊢
  induction h with
  | nil => rfl
  | cons hx _ ih => simp [origin_of_isFaultOf hh hx, ih]

theorem silent_ascending (e : SearchEngine) (turn : Nat) (f : Filter) :
    (e.silent turn f).Pairwise fun s t => s.compare t = .lt := by
  have hall : Source.all.Pairwise fun s t => s.compare t = .lt := by decide
  exact hall.sublist (List.filter_sublist.trans List.filter_sublist)

theorem source_mem_responders (hb : e.registry.IsBound) {p : Product} (hp : p ∈ e.gathered turn f) :
    p.source ∈ e.responders turn f := by
  obtain ⟨s, hs, hp⟩ := List.mem_flatMap.mp hp
  rw [source_of_mem_contribution hb hp]
  simp only [responders, List.mem_filter, hs, true_and]
  unfold contribution at hp
  split at hp
  · next b hbatch => simp [hbatch]
  · simp at hp

theorem truncate_eq_take (e : SearchEngine) (ps : List Product) :
    e.truncate ps = ps.take (e.maxProducts.getD ps.length) := by
  unfold truncate
  cases e.maxProducts <;> simp

/-- What is kept of a sorted list, and what is left out behind it. -/
theorem exists_rest (e : SearchEngine) (direction : SortDirection) (ps : List Product) :
    ∃ rest,
      (e.truncate (Product.sort e.key direction ps) ++ rest).Perm ps ∧
      (e.truncate (Product.sort e.key direction ps) ++ rest).Pairwise
        (fun p q => (Product.order e.key direction p q).isLE) ∧
      e.truncate (Product.sort e.key direction ps) ++ rest = Product.sort e.key direction ps ∧
      (e.truncate (Product.sort e.key direction ps)).length =
        min (e.maxProducts.getD ps.length) ps.length ∧
      ∀ p ∈ e.truncate (Product.sort e.key direction ps), ∀ q ∈ rest,
        Product.order e.key direction q p ≠ .lt := by
  have hperm : (Product.sort e.key direction ps).Perm ps := Product.sort_perm ps
  have hpairwise : (Product.sort e.key direction ps).Pairwise
      fun p q => (Product.order e.key direction p q).isLE := Product.sort_pairwise ps
  have hsplit := List.take_append_drop (e.maxProducts.getD ps.length) (Product.sort e.key direction ps)
  rw [truncate_eq_take, hperm.length_eq]
  refine ⟨_, hsplit.symm ▸ hperm, hsplit.symm ▸ hpairwise, hsplit, ?_, fun p hp q hq => ?_⟩
  · rw [List.length_take, hperm.length_eq]
  · rw [← hsplit] at hpairwise
    exact Std.OrientedCmp.not_lt_of_isLE ((List.pairwise_append.mp hpairwise).2.2 p hp q hq)

/-- A report is what the outcomes of the sources make it. -/
theorem report_of_search {report : SearchReport} (h : (e.search turn f).result = .ok report) :
    f.validate = .ok () ∧ (e.gathered turn f).isEmpty = false ∧
      report =
        { products := e.truncate (Product.sort e.key f.direction (e.gathered turn f))
          queried := (e.outcomes turn f).length
          failures := SearchEngine.failures (e.outcomes turn f)
          dropped := (batches (e.outcomes turn f)).foldl (fun n b => n + b.dropped) 0 } := by
  cases hf : f.validate with
  | error v => simp [search, hf] at h
  | ok u =>
    rw [search_result_of_valid hf] at h
    split at h
    · cases h
    · next hne =>
      simp only [Except.ok.injEq] at h
      exact ⟨rfl, by simpa using hne, h.symm⟩

/-- **Nothing is lost, duplicated or miscounted.** -/
theorem accounted_of_search (hh : e.registry.IsHonest) {report : SearchReport}
    (h : (e.search turn f).result = .ok report) : Accounted e turn f report := by
  obtain ⟨hf, hne, rfl⟩ := report_of_search h
  have hlength := length_batches_add (e.outcomes turn f)
  obtain ⟨rest, hproducts⟩ := e.exists_rest f.direction (e.gathered turn f)
  constructor
  case queried => exact length_outcomes e turn f
  case balanced =>
    simp only [SearchReport.responded]
    omega
  case responded =>
    simp only [SearchReport.responded, ← length_responders]
    omega
  case failures => exact forall₂_failures e turn f
  case failedSources => exact origins_eq_silent hh
  case ascending =>
    rw [SearchReport.failedSources, origins_eq_silent hh]
    exact silent_ascending e turn f
  case records =>
    rw [← flatMap_batches, ← batches_outcomes]
    exact dropped_add_length _
  case products => exact ⟨rest, hproducts⟩
  case diagnostics =>
    intro maxProducts
    -- The limit is not looked at before everything else is known.
    exact ⟨_, (@search_result_of_valid { e with maxProducts := maxProducts } turn f hf).trans
      (if_neg (Bool.eq_false_iff.mp hne))⟩
  case counted =>
    intro c hc
    obtain ⟨p, hp, hsource⟩ := Product.exists_of_mem_countBySource hc
    rw [← hsource]
    exact source_mem_responders hh.isBound
      (hproducts.1.mem_iff.mp (List.mem_append_left _ hp))
  case total => exact Product.sum_countBySource _

/-- Tiki sends two products and one that is not its own, Shopee fails, and Lazada is late. -/
def mixed : SearchEngine where
  registry := ((Registry.empty.put (Binding.sending .tiki 10
    [.draft "2" "iphone" .tiki, .draft "3" "iphone" .lazada, .draft "1" "iphone" .tiki]).adapter).put
      (Binding.failing .shopee).adapter).put
        (Binding.sending .lazada 11 [.draft "4" "iphone" .lazada]).adapter
  key := .price
  timeout := 10
  maxProducts := .some 1

theorem accounted_mixed :
    ∃ report, (mixed.search 0 ⟨"iphone", .ascending⟩).result = .ok report ∧
      Accounted mixed 0 ⟨"iphone", .ascending⟩ report := by
  have hh : mixed.registry.IsHonest :=
    ((Registry.isHonest_empty.put (Binding.sending_blamesItself _ _ _)).put
      (Binding.failing_blamesItself _)).put (Binding.sending_blamesItself _ _ _)
  have hr := (@search_result_of_valid mixed 0 ⟨"iphone", .ascending⟩ (by decide)).trans
    (if_neg (by decide))
  exact ⟨_, hr, accounted_of_search hh hr⟩

end SearchEngine
end MarketSearch
