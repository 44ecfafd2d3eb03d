/-
What is left of the order in which products arrive.

The order of a search result does not tell all products apart: those of one
source with one code that agree on the sort key are tied, whatever else they
say (`Product.order_eq_eq_iff`).  Two arrivals of the same products give
results that agree place by place up to ties, and the results are equal
exactly when the products of each tie came in the same order
(`Product.sort_of_perm`).  So the order of arrival shows wherever two tied
products are not the same (`Product.sort_swapped_ne`).

Both rest on one fact about sorted lists: they agree up to ties as soon as
each tie has as many members in one as in the other.
-/
import Mathlib.Data.List.Forall2
import MarketSearch.Proofs.Order

namespace MarketSearch

/-! ## Sorted lists up to ties -/

section
variable {α : Type} {cmp : α → α → Ordering} [Std.TransCmp cmp]

theorem countP_cons_of_tied {a b : α} (h : cmp a b = .eq) (c : α) (l : List α) :
    (a :: l).countP (cmp c · == .eq) = (b :: l).countP (cmp c · == .eq) := by
  have hc : cmp c a = cmp c b := Std.TransCmp.congr_right h
  rw [List.countP_cons, List.countP_cons, hc]

/-- The first of a sorted list does not exceed anything that is tied with one of its elements. -/
theorem head_isLE_of_countP_pos {a b : α} {l : List α}
    (hl : (b :: l).Pairwise fun a b => (cmp a b).isLE = true)
    (h : 0 < (b :: l).countP (cmp a · == .eq)) : (cmp b a).isLE = true := by
  obtain ⟨c, hc, hac⟩ := List.countP_pos_iff.mp h
  rw [beq_iff_eq] at hac
  have hba : cmp b a = cmp b c := Std.TransCmp.congr_right hac
  rw [hba]
  rcases List.mem_cons.mp hc with rfl | hc
  · simp [Std.ReflCmp.compare_self]
  · exact List.rel_of_pairwise_cons hl hc

theorem forall₂_of_countP_eq {l₁ : List α} :
    ∀ {l₂ : List α}, (l₁.Pairwise fun a b => (cmp a b).isLE = true) →
      (l₂.Pairwise fun a b => (cmp a b).isLE = true) →
      (∀ a, l₁.countP (cmp a · == .eq) = l₂.countP (cmp a · == .eq)) →
      List.Forall₂ (fun a b => cmp a b = .eq) l₁ l₂ := by
  have hself (a : α) (l : List α) : 0 < (a :: l).countP (cmp a · == .eq) :=
    List.countP_pos_iff.mpr ⟨a, List.mem_cons_self, by simp [Std.ReflCmp.compare_self]⟩
  induction l₁ with
  | nil =>
    intro l₂ _ _ h
    cases l₂ with
    | nil => exact .nil
    | cons b l₂ => exact absurd (h b ▸ hself b l₂) (by simp)
  | cons a l₁ ih =>
    intro l₂ h₁ h₂ h
    cases l₂ with
    | nil => exact absurd (h a ▸ hself a l₁) (by simp)
    | cons b l₂ =>
      have hab : cmp a b = .eq := Std.OrientedCmp.isLE_antisymm
        (head_isLE_of_countP_pos h₁ (h b ▸ hself b l₂))
        (head_isLE_of_countP_pos h₂ (h a ▸ hself a l₁))
      refine .cons hab (ih h₁.of_cons h₂.of_cons fun c => ?_)
      have hc := h c
      rw [countP_cons_of_tied hab, List.countP_cons, List.countP_cons] at hc
      exact Nat.add_right_cancel hc

/-- Lists that agree up to ties are equal when they have the members of each tie in one order. -/
theorem eq_of_filter_eq {l₁ l₂ : List α} (h : List.Forall₂ (fun a b => cmp a b = .eq) l₁ l₂)
    (hf : ∀ a ∈ l₁, l₁.filter (cmp a · == .eq) = l₂.filter (cmp a · == .eq)) : l₁ = l₂ := by
  induction h with
  | nil => rfl
  | @cons a b l₁ l₂ hab _ ih =>
    have hhead := hf a List.mem_cons_self
    rw [List.filter_cons_of_pos (by simp [Std.ReflCmp.compare_self]),
      List.filter_cons_of_pos (by simp [hab])] at hhead
    obtain rfl := (List.cons.inj hhead).1
    refine congrArg _ (ih fun c hc => ?_)
    have htail := hf c (List.mem_cons_of_mem _ hc)
    by_cases hca : cmp c a = .eq
    · rw [List.filter_cons_of_pos (by simp [hca]), List.filter_cons_of_pos (by simp [hca])] at htail
      exact (List.cons.inj htail).2
    · rwa [List.filter_cons_of_neg (by simp [hca]), List.filter_cons_of_neg (by simp [hca])] at htail

end

namespace Product

variable {key : SortKey} {direction : SortDirection} {ps qs : List Product} {p q : Product}

/-! ## Ties -/

/-- The sort key has the same value in both. -/
def SameKey (key : SortKey) (p q : Product) : Prop :=
  match key with
  | .price => p.price.amount.units = q.price.amount.units
  | .name => p.name = q.name
  | .discountRate => p.discountRate.percent.units = q.discountRate.percent.units

theorem compareKey_eq_eq_iff : compareKey key p q = .eq ↔ SameKey key p q := by
  cases key with
  | price => exact Std.compare_eq_iff_eq
  | name =>
    simp only [compareKey, compareNames, SameKey, Ordering.then_eq_eq, Std.compare_eq_iff_eq]
    exact ⟨And.right, fun h => ⟨congrArg _ h, h⟩⟩
  | discountRate => exact Std.compare_eq_iff_eq

theorem compareDirected_eq_eq_iff : compareDirected key direction p q = .eq ↔ SameKey key p q := by
  cases direction with
  | ascending => exact compareKey_eq_eq_iff
  | descending => exact Std.OrientedCmp.eq_comm.trans compareKey_eq_eq_iff

/-- The order leaves two products tied when they have the same value of the key, the same source
and the same code.  Nothing else about them is compared. -/
theorem order_eq_eq_iff :
    order key direction p q = .eq ↔ SameKey key p q ∧ p.source = q.source ∧ p.code = q.code := by
  have hsource : p.source.rank = q.source.rank ↔ p.source = q.source :=
    ⟨Source.rank_inj, congrArg _⟩
  simp only [order_eq_compareLex, compareLex_eq_eq, compareOn, compareDirected_eq_eq_iff,
    Std.compare_eq_iff_eq, hsource, and_assoc]

/-- The products that are tied with one, in the order they have. -/
def tiedWith (key : SortKey) (direction : SortDirection) (p : Product) (ps : List Product) :
    List Product := ps.filter (order key direction p · == .eq)

theorem tiedWith_sort : tiedWith key direction p (sort key direction ps) = tiedWith key direction p ps := by
  rw [tiedWith, filter_sort]
  refine List.mergeSort_of_pairwise (List.pairwise_of_forall_mem_list fun a ha b hb => ?_)
  simp only [List.mem_filter, beq_iff_eq] at ha hb
  have hab : order key direction p b = order key direction a b := Std.TransCmp.congr_left ha.2
  rw [← hab, hb.2]
  rfl

/-! ## Arrivals -/

theorem forall₂_sort_of_perm (h : ps.Perm qs) :
    List.Forall₂ (fun p q => order key direction p q = .eq) (sort key direction ps)
      (sort key direction qs) :=
  forall₂_of_countP_eq (sort_pairwise ps) (sort_pairwise qs) fun _ =>
    ((sort_perm ps).trans (h.trans (sort_perm qs).symm)).countP_eq _

/-- **The order of arrival shows among tied products and nowhere else.** Two arrivals of the same
products lead to results that have the same key, source and code at every place, and to the same
result exactly when the products tied with each one arrived in the same order. -/
theorem sort_of_perm (h : ps.Perm qs) :
    List.Forall₂ (fun p q => SameKey key p q ∧ p.source = q.source ∧ p.code = q.code)
      (sort key direction ps) (sort key direction qs) ∧
    (sort key direction ps = sort key direction qs ↔
      ∀ p ∈ ps, tiedWith key direction p ps = tiedWith key direction p qs) := by
  have htied := @forall₂_sort_of_perm key direction ps qs h
  refine ⟨htied.imp fun _ _ => order_eq_eq_iff.mp, fun hsort p _ => ?_, fun hf => ?_⟩
  · rw [← tiedWith_sort, hsort, tiedWith_sort]
  · refine eq_of_filter_eq htied fun p hp => ?_
    exact tiedWith_sort.trans ((hf p ((sort_perm ps).mem_iff.mp hp)).trans tiedWith_sort.symm)

/-- Three products of one source: two with one code, and one with another. -/
theorem sort_of_perm_three :
    let ps := [draft "2" "x" .tiki, draft "1" "b" .tiki, draft "1" "a" .tiki]
    let qs := [draft "1" "b" .tiki, draft "2" "x" .tiki, draft "1" "a" .tiki]
    ps.Perm qs ∧
      List.Forall₂ (fun p q => SameKey .price p q ∧ p.source = q.source ∧ p.code = q.code)
        (sort .price .descending ps) (sort .price .descending qs) ∧
      sort .price .descending ps = sort .price .descending qs := by
  obtain ⟨hplaces, hequal⟩ := @sort_of_perm .price .descending
    [draft "2" "x" .tiki, draft "1" "b" .tiki, draft "1" "a" .tiki]
    [draft "1" "b" .tiki, draft "2" "x" .tiki, draft "1" "a" .tiki] (.swap ..)
  exact ⟨.swap .., hplaces, hequal.mpr (by decide)⟩

/-- Two products that differ in their names alone come out of a search by price as they went in. -/
theorem sort_swapped_ne :
    [draft "1" "a" .tiki, draft "1" "b" .tiki].Perm [draft "1" "b" .tiki, draft "1" "a" .tiki] ∧
    sort .price .ascending [draft "1" "a" .tiki, draft "1" "b" .tiki] ≠
      sort .price .ascending [draft "1" "b" .tiki, draft "1" "a" .tiki] := by
  have hsorted : ∀ a b : Product, order .price .ascending a b = .eq →
      sort .price .ascending [a, b] = [a, b] := fun a b h =>
    List.mergeSort_of_pairwise (by simp [h])
  refine ⟨.swap .., ?_⟩
  rw [hsorted _ _ (by decide), hsorted _ _ (by decide)]
  decide

end Product
end MarketSearch
