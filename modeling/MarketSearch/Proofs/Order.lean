/-
The order of a search result as a theory: for every key and direction the
comparison is a total preorder, so that the result is sorted, holds exactly
the products it was made of, and leaving products out before sorting is the
same as leaving them out afterwards (`Product.filter_sort`).

The last needs that the sort is stable.  Products of equal rank are not equal,
so a sorted rearrangement is not determined by its elements; what determines
it is where each product is inserted into the others' result.
-/
import MarketSearch.Product.Order

namespace MarketSearch

/-! ## Stable sorting -/

section
variable {α : Type} {le : α → α → Bool}

/-- Where an element goes into a sorted list: before the first that it does not exceed. -/
theorem takeWhile_append_of_cut {a : α} {l₁ l₂ : List α} (h₁ : ∀ b ∈ l₁, (!le a b) = true)
    (h₂ : ∀ b ∈ l₂, le a b = true) : (l₁ ++ l₂).takeWhile (fun b => !le a b) = l₁ := by
  rw [List.takeWhile_append_of_pos h₁]
  cases l₂ with
  | nil => simp
  | cons b l₂ => simp [h₂ b (by simp)]

variable (trans : ∀ a b c, le a b = true → le b c = true → le a c = true)
  (total : ∀ a b, (le a b || le b a) = true)
include trans total

/-- A stable sort puts the first element of a list in front of everything it does not exceed. -/
theorem exists_cut_mergeSort (a : α) (l : List α) :
    ∃ l₁ l₂, (a :: l).mergeSort le = l₁ ++ a :: l₂ ∧ l.mergeSort le = l₁ ++ l₂ ∧
      (∀ b ∈ l₁, (!le a b) = true) ∧ ∀ b ∈ l₂, le a b = true := by
  obtain ⟨l₁, l₂, h, hl, h₁⟩ := List.mergeSort_cons trans total a l
  refine ⟨l₁, l₂, h, hl, h₁, fun b hb => ?_⟩
  have hsorted := List.pairwise_mergeSort trans total (a :: l)
  rw [h] at hsorted
  exact List.rel_of_pairwise_cons (List.pairwise_append.mp hsorted).2.1 hb

theorem filter_mergeSort (p : α → Bool) (l : List α) :
    (l.mergeSort le).filter p = (l.filter p).mergeSort le := by
  induction l with
  | nil => simp
  | cons a l ih =>
    obtain ⟨l₁, l₂, h, hl, h₁, h₂⟩ := exists_cut_mergeSort trans total a l
    rw [hl, List.filter_append] at ih
    by_cases ha : p a = true
    · -- Both sides cut the sorted rest where `a` goes, so they cut it at the same place.
      obtain ⟨m₁, m₂, hm, hml, hm₁, hm₂⟩ := exists_cut_mergeSort trans total a (l.filter p)
      rw [← ih] at hml
      have hcut : (l₁.filter p ++ l₂.filter p).takeWhile (fun b => !le a b) = l₁.filter p :=
        takeWhile_append_of_cut (fun b hb => h₁ b (List.mem_filter.mp hb).1)
          (fun b hb => h₂ b (List.mem_filter.mp hb).1)
      have h₁m : l₁.filter p = m₁ := by
        rw [hml, takeWhile_append_of_cut hm₁ hm₂] at hcut
        exact hcut.symm
      have h₂m : l₂.filter p = m₂ := by
        rw [h₁m] at hml
        exact List.append_cancel_left hml
      rw [h, List.filter_append, List.filter_cons_of_pos ha, List.filter_cons_of_pos ha, hm, h₁m, h₂m]
    · rw [h, List.filter_append, List.filter_cons_of_neg ha, List.filter_cons_of_neg ha, ih]

end

/-! ## Comparisons -/

instance : Std.TransCmp Source.compare := inferInstanceAs (Std.TransCmp (compareOn Source.rank))

instance : Std.TransCmp Decimal.compare := inferInstanceAs (Std.TransCmp (compareOn Decimal.units))

namespace Product

instance : Std.TransCmp compareNames :=
  inferInstanceAs (Std.TransCmp (compareLex (compareOn Text.toLower) compare))

instance (key : SortKey) : Std.TransCmp (compareKey key) :=
  match key with
  | .price => inferInstanceAs (Std.TransCmp (compareOn fun p : Product => p.price.amount.units))
  | .name =>
    inferInstanceAs (Std.TransCmp
      (compareLex (compareOn fun p : Product => Text.toLower p.name) (compareOn Product.name)))
  | .discountRate =>
    inferInstanceAs (Std.TransCmp (compareOn fun p : Product => p.discountRate.percent.units))

/-- The part of the order that the direction turns round. -/
def compareDirected (key : SortKey) : SortDirection → Product → Product → Ordering
  | .ascending => compareKey key
  | .descending => fun a b => compareKey key b a

instance (key : SortKey) (direction : SortDirection) : Std.TransCmp (compareDirected key direction) :=
  match direction with
  | .ascending => inferInstanceAs (Std.TransCmp (compareKey key))
  | .descending => inferInstanceAs (Std.TransCmp fun a b => compareKey key b a)

theorem order_eq_compareLex (key : SortKey) (direction : SortDirection) :
    order key direction =
      compareLex (compareLex (compareDirected key direction) (compareOn fun p => p.source.rank))
        (compareOn Product.code) := by
  funext a b
  cases direction <;> rfl

/-- The order of products is a total preorder. -/
instance (key : SortKey) (direction : SortDirection) : Std.TransCmp (order key direction) := by
  rw [order_eq_compareLex]
  infer_instance

variable {key : SortKey} {direction : SortDirection}

theorem order_trans (a b c : Product) (hab : (order key direction a b).isLE = true)
    (hbc : (order key direction b c).isLE = true) : (order key direction a c).isLE = true :=
  Std.TransCmp.isLE_trans hab hbc

theorem order_total (a b : Product) :
    ((order key direction a b).isLE || (order key direction b a).isLE) = true := by
  have hswap : order key direction b a = (order key direction a b).swap := Std.OrientedCmp.eq_swap
  rw [hswap]
  cases order key direction a b <;> rfl

/-! ## Sorting -/

theorem sort_perm (ps : List Product) : (sort key direction ps).Perm ps := List.mergeSort_perm ..

theorem sort_pairwise (ps : List Product) :
    (sort key direction ps).Pairwise fun a b => (order key direction a b).isLE = true :=
  List.pairwise_mergeSort order_trans order_total ps

theorem sort_eq_nil_iff {ps : List Product} : sort key direction ps = [] ↔ ps = [] :=
  ⟨fun h => (h ▸ sort_perm ps).nil_eq.symm, fun h => by simp [h, sort]⟩

theorem filter_sort (p : Product → Bool) (ps : List Product) :
    (sort key direction ps).filter p = sort key direction (ps.filter p) :=
  filter_mergeSort order_trans order_total p ps

end Product
end MarketSearch
