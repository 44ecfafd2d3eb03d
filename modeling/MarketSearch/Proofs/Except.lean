/-
When a step that can fail succeeds, and when a value is carried through it.
-/
namespace MarketSearch

variable {ε α β : Type}

theorem bind_eq_ok_iff {x : Except ε α} {g : α → Except ε β} {b : β} :
    (x >>= g) = .ok b ↔ ∃ a, x = .ok a ∧ g a = .ok b := by
  cases x <;> simp [bind, Except.bind]

theorem map_eq_ok_iff {x : Except ε α} {g : α → β} {b : β} :
    x.map g = .ok b ↔ ∃ a, x = .ok a ∧ g a = b := by
  cases x <;> simp [Except.map]

theorem map_eq_error_iff {x : Except ε α} {g : α → β} {y : ε} : x.map g = .error y ↔ x = .error y := by
  cases x <;> simp [Except.map]

theorem toOption_eq_some_iff {x : Except ε α} {a : α} : x.toOption = .some a ↔ x = .ok a := by
  cases x <;> simp [Except.toOption]

/-- A check that is not failed is passed by. -/
theorem ite_error_eq_ok_iff {p : Prop} [Decidable p] {y : ε} {x : Except ε α} {a : α} :
    (if p then .error y else x) = .ok a ↔ ¬p ∧ x = .ok a := by
  split <;> simp [*]

/-- A run that fails has done so at one of its steps, after a run that did not. -/
theorem foldlM_eq_error_iff {step : β → α → Except ε β} {start : β} {xs : List α} {y : ε} :
    xs.foldlM step start = .error y ↔
      ∃ front x back b, xs = front ++ x :: back ∧ front.foldlM step start = .ok b ∧ step b x = .error y := by
  induction xs generalizing start with
  | nil => simp [pure, Except.pure]
  | cons x xs ih =>
    rw [List.foldlM_cons]
    constructor
    · intro h
      cases hx : step start x with
      | error z =>
        rw [hx] at h
        cases h
        exact ⟨[], x, xs, start, rfl, rfl, hx⟩
      | ok b =>
        rw [hx] at h
        obtain ⟨front, x', back, b', rfl, hfront, hx'⟩ := ih.mp h
        refine ⟨x :: front, x', back, b', rfl, ?_, hx'⟩
        rw [List.foldlM_cons, hx]
        exact hfront
    · rintro ⟨front, x', back, b', hxs, hfront, hx'⟩
      cases front with
      | nil =>
        cases hxs
        cases hfront
        rw [hx']
        rfl
      | cons a front =>
        cases hxs
        obtain ⟨b, hb, hfront⟩ := bind_eq_ok_iff.mp hfront
        rw [hb]
        exact ih.mpr ⟨front, x', back, b', rfl, hfront, hx'⟩

end MarketSearch
