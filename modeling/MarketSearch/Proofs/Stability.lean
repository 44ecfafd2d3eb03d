/-
The order of a search result as a whole: for every key and direction the
comparison is a total preorder, it puts products in order by the key, by the
source and by the code, and the result is the one list that is sorted by it,
holds the products it was made of, and has the tied ones among them in the order
they had (`Product.isStableSort_iff`).

That there is only one such list carries what is said about results: to know
what a sort returns it is enough to have a list that is a stable sort.
-/
import MarketSearch.Proofs.Arrival

namespace MarketSearch

/-! ## Comparisons -/

/-- What a sort relies on: things are tied with themselves, turning a comparison round turns its
answer round, and any two and any three things are in some order. -/
structure IsTotalPreorder {α : Type} (cmp : α → α → Ordering) : Prop where
  refl : ∀ a, cmp a a = .eq
  swap : ∀ a b, cmp b a = (cmp a b).swap
  trans : ∀ a b c, (cmp a b).isLE = true → (cmp b c).isLE = true → (cmp a c).isLE = true
  total : ∀ a b, (cmp a b).isLE = true ∨ (cmp b a).isLE = true

/-- A list is the stable sort of another: it has the same members, none of them before one that it
exceeds, and those tied with each in the order they had. -/
structure IsStableSort {α : Type} (cmp : α → α → Ordering) (l sorted : List α) : Prop where
  perm : sorted.Perm l
  pairwise : sorted.Pairwise fun a b => (cmp a b).isLE = true
  ties : ∀ a, sorted.filter (cmp a · == .eq) = l.filter (cmp a · == .eq)

section

variable {α : Type} {cmp : α → α → Ordering} [Std.TransCmp cmp] {l l₁ l₂ : List α}

theorem isTotalPreorder_of_transCmp (cmp : α → α → Ordering) [Std.TransCmp cmp] : IsTotalPreorder cmp where
  refl _ := Std.ReflCmp.compare_self
  swap _ _ := Std.OrientedCmp.eq_swap
  trans _ _ _ := Std.TransCmp.isLE_trans
  total a b := by
    have hswap : cmp b a = (cmp a b).swap := Std.OrientedCmp.eq_swap
    rw [hswap]
    cases cmp a b <;> decide

/-- **A list has one stable sort.** -/
theorem IsStableSort.unique (h₁ : IsStableSort cmp l l₁) (h₂ : IsStableSort cmp l l₂) : l₁ = l₂ := by
  have htied : List.Forall₂ (fun a b => cmp a b = .eq) l₁ l₂ :=
    forall₂_of_countP_eq h₁.pairwise h₂.pairwise fun _ => (h₁.perm.trans h₂.perm.symm).countP_eq _
  exact eq_of_filter_eq htied fun a _ => (h₁.ties a).trans (h₂.ties a).symm

end

/-! ## Parts of the comparison -/

theorem Text.compare_eq_lt_iff {a b : String} : compare a b = .lt ↔ a < b := compareOfLessAndEq_eq_lt

theorem Source.compare_eq_lt_iff {a b : Source} : a.compare b = .lt ↔ a.rank < b.rank := Std.compare_eq_lt

theorem Source.compare_eq_eq_iff {a b : Source} : a.compare b = .eq ↔ a = b :=
  Std.compare_eq_iff_eq.trans ⟨rank_inj, congrArg rank⟩

namespace Product

variable {key : SortKey} {direction : SortDirection} {p q : Product} {ps sorted : List Product}

/-! ## What comes before what -/

/-- The sort key has a smaller value in the first: prices and rates are compared as numbers, whatever
their scale, and names in lower case, or as written where those agree. -/
def KeyBefore (key : SortKey) (p q : Product) : Prop :=
  match key with
  | .price => p.price.amount.units < q.price.amount.units
  | .name =>
    Text.toLower p.name < Text.toLower q.name ∨ Text.toLower p.name = Text.toLower q.name ∧ p.name < q.name
  | .discountRate => p.discountRate.percent.units < q.discountRate.percent.units

/-- What the direction asks for first: the smaller value of the key, or the larger one. -/
def KeyFirst (key : SortKey) : SortDirection → Product → Product → Prop
  | .ascending, p, q => KeyBefore key p q
  | .descending, p, q => KeyBefore key q p

/-- By the key in the direction asked for, where that has the same value by the source, and in one
source by the code. -/
def Precedes (key : SortKey) (direction : SortDirection) (p q : Product) : Prop :=
  KeyFirst key direction p q ∨
    SameKey key p q ∧ (p.source.rank < q.source.rank ∨ p.source = q.source ∧ p.code < q.code)

theorem compareKey_eq_lt_iff : compareKey key p q = .lt ↔ KeyBefore key p q := by
  cases key with
  | price => exact Std.compare_eq_lt
  | name =>
    simp only [compareKey, compareNames, KeyBefore, Ordering.then_eq_lt, Text.compare_eq_lt_iff,
      Std.compare_eq_iff_eq]
  | discountRate => exact Std.compare_eq_lt

theorem compareDirected_eq_lt_iff : compareDirected key direction p q = .lt ↔ KeyFirst key direction p q := by
  cases direction <;> exact compareKey_eq_lt_iff

theorem order_eq_then (key : SortKey) (direction : SortDirection) (p q : Product) : order key direction p q =
    ((compareDirected key direction p q).then (p.source.compare q.source)).then (compare p.code q.code) := by
  cases direction <;> rfl

theorem order_eq_lt_iff : order key direction p q = .lt ↔ Precedes key direction p q := by
  simp only [order_eq_then, Ordering.then_eq_lt, Ordering.then_eq_eq, compareDirected_eq_lt_iff,
    compareDirected_eq_eq_iff, Source.compare_eq_lt_iff, Source.compare_eq_eq_iff, Text.compare_eq_lt_iff]
  rw [Precedes, and_or_left, or_assoc, and_assoc]

/-! ## Results -/

theorem isStableSort_sort (ps : List Product) : IsStableSort (order key direction) ps (sort key direction ps) where
  perm := sort_perm ps
  pairwise := sort_pairwise ps
  ties _ := tiedWith_sort

theorem isStableSort_iff : IsStableSort (order key direction) ps sorted ↔ sorted = sort key direction ps :=
  ⟨fun h => h.unique (isStableSort_sort ps), fun h => h ▸ isStableSort_sort ps⟩

/-- What is sorted already is its own stable sort. -/
theorem sort_sort (ps : List Product) : sort key direction (sort key direction ps) = sort key direction ps :=
  (isStableSort_iff.mp ⟨.refl _, sort_pairwise ps, fun _ => rfl⟩).symm

/-- **A search result is the stable sort of its products by a total preorder.** The preorder goes by the
key in the direction asked for, then by the source, then by the code, and leaves tied what has all three
in common; there is one list that is a stable sort of some products, and sorting returns it; and sorting
it again changes nothing. -/
theorem stable_sort_by_total_preorder (key : SortKey) (direction : SortDirection) :
    IsTotalPreorder (order key direction) ∧
    (∀ p q, (order key direction p q = .lt ↔ Precedes key direction p q) ∧
      (order key direction p q = .eq ↔ SameKey key p q ∧ p.source = q.source ∧ p.code = q.code)) ∧
    (∀ ps sorted, IsStableSort (order key direction) ps sorted ↔ sorted = sort key direction ps) ∧
    ∀ ps, sort key direction (sort key direction ps) = sort key direction ps :=
  ⟨isTotalPreorder_of_transCmp _, fun _ _ => ⟨order_eq_lt_iff, order_eq_eq_iff⟩, fun _ _ => isStableSort_iff,
    sort_sort⟩

end Product
end MarketSearch
