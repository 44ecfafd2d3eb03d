/-
The limit on the number of products, where settings give one.

That nothing was found is decided by what the sources contribute, before the
limit is looked at, and valid settings may give any limit.  So a search whose
sources contribute something is answered with products for every limit but
zero, and with an empty list for zero (`ResultSettings.search_by_limit`); such
settings are valid (`ResultSettings.nothing_within_no_room`).
-/
import MarketSearch.Proofs.Run
import MarketSearch.Settings.Service

namespace MarketSearch
namespace ResultSettings

variable {s : ResultSettings} {r : Registry} {turn : Nat} {f : Filter}

/-- A limit leaves nothing of some products exactly when it is zero. -/
theorem truncate_eq_nil_iff {ps : List Product} (h : ps ≠ []) :
    (s.engine r).truncate ps = [] ↔ s.maxProducts = .some 0 := by
  unfold SearchEngine.truncate engine
  cases s.maxProducts with
  | none => simpa using h
  | some n => simp [List.take_eq_nil_iff, h, ← UInt64.toNat_inj]

/-- There is a report when some source contributes a product, and it has what the limit leaves. -/
theorem exists_report_iff {P : List Product → Prop} :
    (∃ report, ((s.engine r).search turn f).result = .ok report ∧ P report.products) ↔
      f.validate = .ok () ∧ (s.engine r).gathered turn f ≠ [] ∧
        P ((s.engine r).truncate (Product.sort s.sortKey f.direction ((s.engine r).gathered turn f))) := by
  rcases SearchEngine.search_cases (s.engine r) turn f with
    ⟨hf, hresult⟩ | ⟨hf, hnone, hresult⟩ | ⟨hf, hsome, report, hresult, hproducts⟩
  · simp [hresult, hf]
  · simp [hresult, hnone]
  · have hkey : (s.engine r).key = s.sortKey := rfl
    simp [hresult, hf, hsome, hproducts, hkey]

theorem truncate_sort_eq_nil_iff {direction : SortDirection} {ps : List Product} (h : ps ≠ []) :
    (s.engine r).truncate (Product.sort s.sortKey direction ps) = [] ↔ s.maxProducts = .some 0 :=
  truncate_eq_nil_iff (mt Product.sort_eq_nil_iff.mp h)

theorem exists_empty_report_iff :
    (∃ report, ((s.engine r).search turn f).result = .ok report ∧ report.products = []) ↔
      f.validate = .ok () ∧ (s.engine r).gathered turn f ≠ [] ∧ s.maxProducts = .some 0 := by
  rw [exists_report_iff (P := (· = []))]
  exact and_congr_right fun _ => and_congr_right truncate_sort_eq_nil_iff

theorem exists_full_report_iff :
    (∃ report, ((s.engine r).search turn f).result = .ok report ∧ report.products ≠ []) ↔
      f.validate = .ok () ∧ (s.engine r).gathered turn f ≠ [] ∧ s.maxProducts ≠ .some 0 := by
  rw [exists_report_iff (P := (· ≠ []))]
  exact and_congr_right fun _ => and_congr_right fun h => (truncate_sort_eq_nil_iff h).not

/-- **Only a limit of zero empties an answer.** Under whatever settings, a search finds products, and
not none of them, when the filter is valid, some source contributes a product and the limit is not
zero; it answers with an empty list when the limit is zero instead; and it finds nothing exactly
when the filter is valid and no source contributes a product, whatever the limit. -/
theorem search_by_limit (s : ResultSettings) (r : Registry) (turn : Nat) (f : Filter) :
    let e := s.engine r
    ((∃ report, (e.search turn f).result = .ok report ∧ report.products ≠ []) ↔
      f.validate = .ok () ∧ e.gathered turn f ≠ [] ∧ s.maxProducts ≠ .some 0) ∧
    ((∃ report, (e.search turn f).result = .ok report ∧ report.products = []) ↔
      f.validate = .ok () ∧ e.gathered turn f ≠ [] ∧ s.maxProducts = .some 0) ∧
    ∀ m, (e.search turn f).result = .error (.notFound m) ↔
      f.validate = .ok () ∧ e.gathered turn f = [] ∧ m = "No product found for query: " ++ f.query :=
  ⟨exists_full_report_iff, exists_empty_report_iff,
    (SearchEngine.answered_search _ turn f).nothing⟩

/-- Settings that are valid and leave no room for products. -/
def noRoom : Settings :=
  { Settings.default with auth := ⟨"secret", "product:read"⟩, results := ⟨5000, .price, .some 0⟩ }

/-- Tiki has a product, and it is not in the answer. -/
theorem nothing_within_no_room :
    noRoom.validate = .ok () ∧
    ∃ report,
      ((noRoom.results.engine (Registry.empty.put (SearchEngine.tikiAfter 0))).search 0
        ⟨"iphone", .ascending⟩).result = .ok report ∧ report.products = [] :=
  ⟨by decide, exists_empty_report_iff.mpr ⟨by decide, by decide, rfl⟩⟩

end ResultSettings
end MarketSearch
