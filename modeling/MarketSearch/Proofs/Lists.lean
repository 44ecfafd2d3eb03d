/-
Lists that are cut where a test begins to fail, and runs over lists of which
each step may have no result.
-/
import Mathlib.Data.List.Forall2
import Mathlib.Data.List.TakeDrop

namespace MarketSearch

section

variable {α : Type} {p : α → Bool} {xs ys : List α}

/-- Nothing is dropped when the first one stays. -/
theorem dropWhile_of_head? (h : ∀ x, xs.head? = .some x → p x = false) : xs.dropWhile p = xs := by
  cases xs with
  | nil => rfl
  | cons x xs => exact List.dropWhile_cons_of_neg (by simp [h x rfl])

theorem takeWhile_of_head? (h : ∀ x, xs.head? = .some x → p x = false) : xs.takeWhile p = [] := by
  cases xs with
  | nil => rfl
  | cons x xs => exact List.takeWhile_cons_of_neg (by simp [h x rfl])

/-- A list is cut where the test begins to fail. -/
theorem takeWhile_append_of_head? (hxs : ∀ x ∈ xs, p x = true)
    (hys : ∀ y, ys.head? = .some y → p y = false) : (xs ++ ys).takeWhile p = xs := by
  rw [List.takeWhile_append_of_pos hxs, takeWhile_of_head? hys, List.append_nil]

theorem dropWhile_append_of_head? (hxs : ∀ x ∈ xs, p x = true)
    (hys : ∀ y, ys.head? = .some y → p y = false) : (xs ++ ys).dropWhile p = ys := by
  rw [List.dropWhile_append_of_pos hxs, dropWhile_of_head? hys]

/-- A list is cut no later than where the test fails. -/
theorem takeWhile_append_cons {x : α} (hx : p x = false) (xs ys : List α) :
    (xs ++ x :: ys).takeWhile p = xs.takeWhile p := by
  induction xs with
  | nil => simp [hx]
  | cons y xs ih => cases hy : p y <;> simp [hy, ih]

theorem dropWhile_append_cons {x : α} (hx : p x = false) (xs ys : List α) :
    (xs ++ x :: ys).dropWhile p = xs.dropWhile p ++ x :: ys := by
  induction xs with
  | nil => simp [hx]
  | cons y xs ih => cases hy : p y <;> simp [hy, ih]

/-- A list is what comes before a member, the member, and what comes after it. -/
theorem take_append_cons_drop {x : α} {i : Nat} (h : xs[i]? = .some x) : xs.take i ++ x :: xs.drop (i + 1) = xs := by
  obtain ⟨hlt, rfl⟩ := List.getElem?_eq_some_iff.mp h
  rw [List.getElem_cons_drop, List.take_append_drop]

/-- What a test finds of each holds of each; a decision over all characters would not end. -/
theorem forall_mem_of_all {P : α → Prop} [DecidablePred P] (h : xs.all (fun x => decide (P x)) = true) :
    ∀ x ∈ xs, P x := by
  simpa using h

theorem takeWhile_of_forall (h : ∀ x ∈ xs, p x = true) : xs.takeWhile p = xs := by
  rw [← List.append_nil xs, takeWhile_append_of_head? (by simpa using h) (by simp), List.append_nil]

end

section

variable {α β γ : Type} {f : α → Option β} {xs : List α}

/-- What each has alone, all have in their order. -/
theorem exists_forall₂ {R : α → β → Prop} (h : ∀ x ∈ xs, ∃ y, R x y) : ∃ ys, List.Forall₂ R xs ys := by
  induction xs with
  | nil => exact ⟨[], .nil⟩
  | cons x xs ih =>
    obtain ⟨y, hy⟩ := h x List.mem_cons_self
    obtain ⟨ys, hys⟩ := ih fun x' hx' => h x' (List.mem_cons_of_mem _ hx')
    exact ⟨y :: ys, .cons hy hys⟩

/-- What is between each two is between the lists of them. -/
theorem exists_forall₂_between {R : α → β → Prop} {S : β → γ → Prop} {zs : List γ}
    (h : List.Forall₂ (fun x z => ∃ y, R x y ∧ S y z) xs zs) :
    ∃ ys, List.Forall₂ R xs ys ∧ List.Forall₂ S ys zs := by
  induction h with
  | nil => exact ⟨[], .nil, .nil⟩
  | cons h _ ih =>
    obtain ⟨y, hx, hz⟩ := h
    obtain ⟨ys, hxs, hzs⟩ := ih
    exact ⟨y :: ys, .cons hx hxs, .cons hz hzs⟩

theorem mapM_cons_eq (f : α → Option β) (x : α) (xs : List α) :
    (x :: xs).mapM f = (f x).bind fun y => (xs.mapM f).map (y :: ·) := by
  rw [List.mapM_cons]
  cases f x with
  | none => rfl
  | some y => cases xs.mapM f <;> rfl

theorem mapM_eq_some_iff {ys : List β} : xs.mapM f = .some ys ↔ List.Forall₂ (fun x y => f x = .some y) xs ys := by
  induction xs generalizing ys with
  | nil => simp [eq_comm]
  | cons x xs ih =>
    rw [mapM_cons_eq, List.forall₂_cons_left_iff]
    simp only [Option.bind_eq_some_iff, Option.map_eq_some_iff, ih]
    constructor
    · rintro ⟨y, hy, ys, hys, rfl⟩
      exact ⟨y, ys, hy, hys, rfl⟩
    · rintro ⟨y, ys, hy, hys, rfl⟩
      exact ⟨y, hy, ys, hys, rfl⟩

theorem isSome_mapM_iff : (xs.mapM f).isSome = true ↔ ∀ x ∈ xs, (f x).isSome = true := by
  induction xs with
  | nil => simp
  | cons x xs ih =>
    rw [mapM_cons_eq, List.forall_mem_cons, ← ih]
    cases f x <;> simp

theorem mapM_map_eq (g : γ → α) (f : α → Option β) (xs : List γ) :
    (xs.map g).mapM f = xs.mapM fun x => f (g x) := by
  induction xs with
  | nil => rfl
  | cons x xs ih => rw [List.map_cons, mapM_cons_eq, mapM_cons_eq, ih]

theorem mapM_map_right (f : α → Option β) (g : β → γ) (xs : List α) :
    (xs.mapM fun x => (f x).map g) = (xs.mapM f).map (List.map g) := by
  induction xs with
  | nil => rfl
  | cons x xs ih =>
    rw [mapM_cons_eq, mapM_cons_eq, ih]
    cases f x <;> cases xs.mapM f <;> rfl

/-- A run with one condition on each has a result where all meet it. -/
theorem mapM_ite (P : α → Prop) [DecidablePred P] (f : α → β) (xs : List α) :
    (xs.mapM fun x => if P x then Option.some (f x) else .none) =
      if ∀ x ∈ xs, P x then .some (xs.map f) else .none := by
  induction xs with
  | nil => simp
  | cons x xs ih =>
    rw [mapM_cons_eq, ih]
    by_cases hx : P x <;> by_cases hxs : ∀ x ∈ xs, P x <;> simp [hx, hxs]

theorem lookup_cons_of_ne {name k : String} (h : name ≠ k) (x : α) (names : List (String × α)) :
    ((k, x) :: names).lookup name = names.lookup name := by
  have hk : (name == k) = false := by simpa using h
  rw [List.lookup_cons, hk]

theorem mem_of_lookup {κ : Type} [BEq κ] [LawfulBEq κ] {names : List (κ × α)} {s : κ} {x : α}
    (h : names.lookup s = .some x) : (s, x) ∈ names := by
  obtain ⟨_, _, hnames, -⟩ := List.lookup_eq_some_iff.mp h
  simp [hnames]

/-- Where no name is given twice, every one of them is found. -/
theorem lookup_eq_some_iff_mem {names : List (String × α)} {s : String} {x : α} (hnodup : (names.map Prod.fst).Nodup) :
    names.lookup s = .some x ↔ (s, x) ∈ names := by
  refine ⟨mem_of_lookup, fun hmem => ?_⟩
  obtain ⟨before, after, rfl⟩ := List.append_of_mem hmem
  refine List.lookup_eq_some_iff.mpr ⟨before, after, rfl, fun p hp => ?_⟩
  rw [List.map_append, List.nodup_append] at hnodup
  have hne := hnodup.2.2 p.1 (List.mem_map_of_mem hp) s List.mem_cons_self
  simpa using Ne.symm hne

end
end MarketSearch
