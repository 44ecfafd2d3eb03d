/-
Descending results: each is the ascending result with its runs of one key in
reverse order, and every run in the order it has (`Product.sort_descending_eq_runs`).

The runs of a sorted list rise strictly from one to the next
(`pairwise_lt_of_isChain`).  So what they are put together to backwards is sorted
by the descending order, which agrees with the ascending one inside a run, and
tied products stand in one run as they stood before.  That makes it a stable
sort, and there is only one.
-/
import Mathlib.Data.List.SplitBy
import MarketSearch.Proofs.Stability

namespace MarketSearch

/-! ## Runs of a sorted list -/

section

variable {α : Type}

/-- The order of lists does not show where no two of them have members. -/
theorem flatten_reverse_of_pairwise {rs : List (List α)} (h : rs.Pairwise fun r r' => r = [] ∨ r' = []) :
    rs.reverse.flatten = rs.flatten := by
  induction rs with
  | nil => rfl
  | cons r rs ih =>
    obtain ⟨hr, hrs⟩ := List.pairwise_cons.mp h
    rw [List.reverse_cons, List.flatten_append, ih hrs, List.flatten_singleton, List.flatten_cons]
    by_cases hempty : r = []
    · simp [hempty]
    · have hothers : rs.flatten = [] :=
        List.flatten_eq_nil_iff.mpr fun r' hr' => (hr r' hr').resolve_left hempty
      simp [hothers]

variable {cmp : α → α → Ordering} [Std.TransCmp cmp] {l r : List α}

/-- In a run all are tied, not only neighbours. -/
theorem tied_of_mem_splitBy (h : r ∈ l.splitBy (cmp · · == .eq)) : ∀ a ∈ r, ∀ b ∈ r, cmp a b = .eq := by
  have hchain : r.IsChain fun a b => cmp a b = .eq :=
    (List.isChain_of_mem_splitBy h).imp fun _ _ hab => by simpa using hab
  have htrans : Trans (cmp · · = .eq) (cmp · · = .eq) (cmp · · = .eq) := ⟨Std.TransCmp.eq_trans⟩
  have hsymm : Std.Symm (cmp · · = .eq) := ⟨fun _ _ => Std.OrientedCmp.eq_symm⟩
  exact hchain.pairwise.forall_of_forall fun _ _ => Std.ReflCmp.compare_self

/-- The runs of a sorted list rise strictly, also where they are not neighbours. -/
theorem pairwise_lt_of_isChain {rs : List (List α)}
    (hsorted : rs.flatten.Pairwise fun a b => (cmp a b).isLE = true)
    (htied : ∀ r ∈ rs, ∀ a ∈ r, ∀ b ∈ r, cmp a b = .eq)
    (hchain : rs.IsChain fun r r' => ∃ hr hr', (cmp (r.getLast hr) (r'.head hr') == .eq) = false) :
    rs.Pairwise fun r r' => ∀ a ∈ r, ∀ b ∈ r', cmp a b = .lt := by
  induction rs with
  | nil => exact .nil
  | cons r rs ih =>
    obtain ⟨-, hrest, hacross⟩ := List.pairwise_append.mp hsorted
    obtain ⟨hrun, hruns⟩ := List.forall_mem_cons.mp htied
    refine .cons ?_ (ih hrest hruns hchain.tail)
    cases rs with
    | nil => simp
    | cons s rs =>
      obtain ⟨⟨hr, hs, hne⟩, -⟩ := List.isChain_cons_cons.mp hchain
      have hstep : cmp (r.getLast hr) (s.head hs) = .lt := by
        have hle := hacross _ (List.getLast_mem hr) _ (List.mem_append_left _ (List.head_mem hs))
        exact (Ordering.isLE_iff_eq_lt_or_eq_eq.mp hle).resolve_right (by simpa using hne)
      intro r' hr' a ha b hb
      -- `b` is in the next run, where it is tied with the first, or it comes after that run.
      have hbeyond : (cmp (s.head hs) b).isLE = true := by
        rcases List.mem_cons.mp hr' with rfl | hr'
        · rw [(List.forall_mem_cons.mp hruns).1 _ (List.head_mem hs) b hb]
          rfl
        · exact (List.pairwise_append.mp hrest).2.2 _ (List.head_mem hs) b (List.mem_flatten_of_mem hr' hb)
      exact Std.TransCmp.lt_of_eq_of_lt (hrun a ha _ (List.getLast_mem hr))
        (Std.TransCmp.lt_of_lt_of_isLE hstep hbeyond)

end

namespace Product

variable {key : SortKey} {direction direction' : SortDirection} {p q : Product} {ps r : List Product}

/-! ## Directions -/

theorem isLE_compareDirected (h : (order key direction p q).isLE = true) :
    (compareDirected key direction p q).isLE = true := by
  rw [order_eq_then] at h
  cases hkey : compareDirected key direction p q with
  | lt | eq => rfl
  | gt => simp [hkey] at h

theorem order_eq_lt_of_compareDirected (h : compareDirected key direction p q = .lt) :
    order key direction p q = .lt := by
  rw [order_eq_then, h]
  rfl

/-- Where the key is the same, the direction does not matter. -/
theorem order_eq_of_sameKey (h : SameKey key p q) : order key direction p q = order key direction' p q := by
  rw [order_eq_then, order_eq_then, compareDirected_eq_eq_iff.mpr h, compareDirected_eq_eq_iff.mpr h]

/-- What is tied does not depend on the direction. -/
theorem tiedWith_congr (direction direction' : SortDirection) (p : Product) (ps : List Product) :
    tiedWith key direction p ps = tiedWith key direction' p ps :=
  List.filter_congr fun q _ => by rw [Bool.eq_iff_iff, beq_iff_eq, beq_iff_eq, order_eq_eq_iff, order_eq_eq_iff]

/-! ## Runs of one key -/

instance (key : SortKey) (p q : Product) : Decidable (SameKey key p q) :=
  decidable_of_iff (compareKey key p q = .eq) compareKey_eq_eq_iff

/-- The longest runs of products that have one value of the key. -/
def runs (key : SortKey) (ps : List Product) : List (List Product) :=
  ps.splitBy fun p q => decide (SameKey key p q)

theorem runs_eq (key : SortKey) (ps : List Product) : runs key ps = ps.splitBy (compareKey key · · == .eq) := by
  have hkey : (fun p q => decide (SameKey key p q)) = (compareKey key · · == .eq) := by
    funext p q
    rw [Bool.eq_iff_iff, decide_eq_true_iff, beq_iff_eq, compareKey_eq_eq_iff]
  rw [runs, hkey]

theorem flatten_runs (key : SortKey) (ps : List Product) : (runs key ps).flatten = ps :=
  List.flatten_splitBy _ ps

theorem sameKey_of_mem_runs (h : r ∈ runs key ps) : ∀ p ∈ r, ∀ q ∈ r, SameKey key p q := by
  rw [runs_eq] at h
  exact fun p hp q hq => compareKey_eq_eq_iff.mp (tied_of_mem_splitBy h p hp q hq)

/-- The runs of an ascending result rise strictly. -/
theorem keyBefore_runs (key : SortKey) (ps : List Product) :
    (runs key (sort key .ascending ps)).Pairwise fun r r' => ∀ p ∈ r, ∀ q ∈ r', KeyBefore key p q := by
  have hsorted : (sort key .ascending ps).Pairwise fun p q => (compareKey key p q).isLE = true :=
    (@sort_pairwise key .ascending ps).imp isLE_compareDirected
  have hrising : (runs key (sort key .ascending ps)).Pairwise
      fun r r' => ∀ p ∈ r, ∀ q ∈ r', compareKey key p q = .lt := by
    refine pairwise_lt_of_isChain ?_ (fun r hr p hp q hq => ?_) ?_
    · rwa [flatten_runs]
    · exact compareKey_eq_eq_iff.mpr (sameKey_of_mem_runs hr p hp q hq)
    · rw [runs_eq]
      exact List.isChain_getLast_head_splitBy (compareKey key · · == .eq) _
  exact hrising.imp fun h p hp q hq => compareKey_eq_lt_iff.mp (h p hp q hq)

/-- What is tied with a product has its key, so it is in one of the runs if they rise strictly. -/
theorem tiedWith_reverse_flatten {rs : List (List Product)}
    (h : rs.Pairwise fun r r' => ∀ p ∈ r, ∀ q ∈ r', KeyBefore key p q) :
    tiedWith key direction p rs.reverse.flatten = tiedWith key direction p rs.flatten := by
  have hrun : (rs.map (tiedWith key direction p)).Pairwise fun r r' => r = [] ∨ r' = [] := by
    refine List.pairwise_map.mpr (h.imp fun {r r'} h => ?_)
    by_contra hboth
    obtain ⟨hr, hr'⟩ := not_or.mp hboth
    obtain ⟨q, hq⟩ := List.exists_mem_of_ne_nil _ hr
    obtain ⟨q', hq'⟩ := List.exists_mem_of_ne_nil _ hr'
    simp only [tiedWith, List.mem_filter, beq_iff_eq, order_eq_eq_iff, ← compareKey_eq_eq_iff] at hq hq'
    have hlt : compareKey key q q' = .lt := compareKey_eq_lt_iff.mpr (h q hq.1 q' hq'.1)
    have hcongr : compareKey key p q' = compareKey key q q' := Std.TransCmp.congr_left hq.2.1
    rw [← hcongr, hq'.2.1] at hlt
    cases hlt
  rw [tiedWith, tiedWith, List.filter_flatten, List.filter_flatten, List.map_reverse]
  exact flatten_reverse_of_pairwise hrun

/-! ## Both directions -/

/-- The runs of an ascending result, put together backwards. -/
theorem isStableSort_reverse_runs (key : SortKey) (ps : List Product) :
    IsStableSort (order key .descending) ps (runs key (sort key .ascending ps)).reverse.flatten := by
  have hflatten := flatten_runs key (sort key .ascending ps)
  have hrising := keyBefore_runs key ps
  refine ⟨?_, ?_, fun p => ?_⟩
  · have hperm := (List.reverse_perm (runs key (sort key .ascending ps))).flatten
    rw [hflatten] at hperm
    exact hperm.trans (sort_perm ps)
  · have hsorted := @sort_pairwise key .ascending ps
    rw [← hflatten, List.pairwise_flatten] at hsorted
    rw [List.pairwise_flatten, List.pairwise_reverse]
    refine ⟨fun r hr => ?_, hrising.imp fun h p hp q hq => ?_⟩
    · have hmem := List.mem_reverse.mp hr
      refine (hsorted.1 r hmem).imp_of_mem fun {p q} hp hq hpq => ?_
      rwa [order_eq_of_sameKey (sameKey_of_mem_runs hmem p hp q hq)]
    · have hlt : order key .descending p q = .lt :=
        order_eq_lt_of_compareDirected (compareDirected_eq_lt_iff.mpr (h q hq p hp))
      rw [hlt]
      rfl
  · change tiedWith key .descending p _ = tiedWith key .descending p ps
    rw [tiedWith_reverse_flatten hrising, hflatten, tiedWith_congr .descending .ascending, tiedWith_sort,
      tiedWith_congr .ascending .descending]

/-- **A descending result is the ascending one with its runs of one key in reverse order**, each run in
the order it has. -/
theorem sort_descending_eq_runs (key : SortKey) (ps : List Product) :
    (runs key (sort key .ascending ps)).reverse.flatten = sort key .descending ps :=
  isStableSort_iff.mp (isStableSort_reverse_runs key ps)

end Product
end MarketSearch
