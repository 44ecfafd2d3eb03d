/-
The words of a text: what can be one of them.

A word is read with the characters of it that came before (`Text.wordsFrom`), so
what is said of the words of a text is said of the rest of a text and the word
that was begun.
-/
import MarketSearch.Text.Blank
import MarketSearch.Token.Claims

namespace MarketSearch
namespace Text

/-- One character at least, and none of them blank. -/
def IsWord (cs : List Char) : Prop := cs ≠ [] ∧ ∀ c ∈ cs, isBlank c = false

instance (cs : List Char) : Decidable (IsWord cs) :=
  decidable_of_iff (cs ≠ [] ∧ cs.all (fun c => !isBlank c) = true) (by simp [IsWord])

theorem isWord_reverse_cons {c : Char} {cs : List Char} (h : ∀ d ∈ c :: cs, isBlank d = false) :
    IsWord (c :: cs).reverse :=
  ⟨by simp, fun d hd => h d (List.mem_reverse.mp hd)⟩

theorem isWord_of_mem_wordsFrom {word cs : List Char} (hword : ∀ c ∈ word, isBlank c = false) :
    ∀ w ∈ wordsFrom word cs, IsWord w := by
  induction cs generalizing word with
  | nil =>
    cases word with
    | nil => simp [wordsFrom]
    | cons d word => exact List.forall_mem_singleton.mpr (isWord_reverse_cons hword)
  | cons c cs ih =>
    have hrest := @ih [] (by simp)
    unfold wordsFrom
    split
    · cases word with
      | nil => exact hrest
      | cons d word => exact List.forall_mem_cons.mpr ⟨isWord_reverse_cons hword, hrest⟩
    · next hc => exact ih (List.forall_mem_cons.mpr ⟨by simpa using hc, hword⟩)

theorem isWord_of_mem_words {s w : String} (h : w ∈ words s) : IsWord w.toList := by
  obtain ⟨cs, hcs, rfl⟩ := List.mem_map.mp h
  rw [String.toList_ofList]
  exact isWord_of_mem_wordsFrom (by simp) cs hcs

theorem wordsFrom_of_forall {word cs : List Char} (h : ∀ c ∈ cs, isBlank c = false) :
    wordsFrom word cs = wordsFrom (cs.reverse ++ word) [] := by
  induction cs generalizing word with
  | nil => rfl
  | cons c cs ih =>
    obtain ⟨hc, hcs⟩ := List.forall_mem_cons.mp h
    simp [wordsFrom, hc, ih hcs]

theorem wordsFrom_of_isWord {cs : List Char} (h : IsWord cs) : wordsFrom [] cs = [cs] := by
  rw [wordsFrom_of_forall h.2]
  simp [wordsFrom, h.1]

/-- A word has itself for its words. -/
theorem words_of_isWord {w : String} (h : IsWord w.toList) : words w = [w] := by
  rw [words, wordsFrom_of_isWord h, List.map_singleton, String.ofList_toList]

end Text

/-- Some claims grant a scope exactly if it is a word. -/
theorem Claims.exists_hasScope_iff {scope : String} :
    (∃ c : Claims, c.hasScope scope = true) ↔ Text.IsWord scope.toList := by
  simp only [hasScope, List.contains_iff_mem]
  constructor
  · rintro ⟨c, hc⟩
    exact Text.isWord_of_mem_words hc
  · intro h
    exact ⟨⟨"", scope, 0⟩, by simp [Text.words_of_isWord h]⟩

end MarketSearch
