/-
Cutting a text at a mark: at its first or its last occurrence, or at all.
-/
namespace MarketSearch
namespace Text

/-- What comes before the first mark and what comes after it. -/
def splitFirst? (mark : Char) : List Char → Option (List Char × List Char)
  | [] => .none
  | c :: cs => if c = mark then .some ([], cs) else (splitFirst? mark cs).map fun (a, b) => (c :: a, b)

/-- What comes before the last mark and what comes after it. -/
def splitLast? (mark : Char) : List Char → Option (List Char × List Char)
  | [] => .none
  | c :: cs =>
    match splitLast? mark cs with
    | .some (a, b) => .some (c :: a, b)
    | .none => if c = mark then .some ([], cs) else .none

/-- The pieces between the marks, at least one. -/
def splitAll (mark : Char) : List Char → List (List Char)
  | [] => [[]]
  | c :: cs =>
    if c = mark then [] :: splitAll mark cs
    else
      match splitAll mark cs with
      | [] => [[c]]
      | p :: ps => (c :: p) :: ps

theorem splitFirst?_append {mark : Char} {a : List Char} (h : mark ∉ a) (b : List Char) :
    splitFirst? mark (a ++ mark :: b) = .some (a, b) := by
  induction a with
  | nil => simp [splitFirst?]
  | cons c cs ih =>
    simp only [List.mem_cons, not_or] at h
    simp [splitFirst?, Ne.symm h.1, ih h.2]

theorem splitFirst?_eq_none {mark : Char} {a : List Char} (h : mark ∉ a) :
    splitFirst? mark a = .none := by
  induction a with
  | nil => rfl
  | cons c cs ih =>
    simp only [List.mem_cons, not_or] at h
    simp [splitFirst?, Ne.symm h.1, ih h.2]

theorem splitLast?_eq_none {mark : Char} {a : List Char} (h : mark ∉ a) :
    splitLast? mark a = .none := by
  induction a with
  | nil => rfl
  | cons c cs ih =>
    simp only [List.mem_cons, not_or] at h
    simp [splitLast?, ih h.2, Ne.symm h.1]

theorem splitLast?_append {mark : Char} (a : List Char) {b : List Char} (h : mark ∉ b) :
    splitLast? mark (a ++ mark :: b) = .some (a, b) := by
  induction a with
  | nil => simp [splitLast?, splitLast?_eq_none h]
  | cons c cs ih => simp [splitLast?, ih]

theorem splitAll_of_not_mem {mark : Char} {a : List Char} (h : mark ∉ a) :
    splitAll mark a = [a] := by
  induction a with
  | nil => rfl
  | cons c cs ih =>
    simp only [List.mem_cons, not_or] at h
    simp only [splitAll, if_neg (Ne.symm h.1), ih h.2]

theorem splitAll_append {mark : Char} {a : List Char} (h : mark ∉ a) (b : List Char) :
    splitAll mark (a ++ mark :: b) = a :: splitAll mark b := by
  induction a with
  | nil => simp [splitAll]
  | cons c cs ih =>
    simp only [List.mem_cons, not_or] at h
    simp only [List.cons_append, splitAll, if_neg (Ne.symm h.1), ih h.2]

end Text
end MarketSearch
