/-
Which scopes a token grants: those that stand in its claims as whole words.

The words of a text are read character by character, and a blank ends the word
that was begun (`Text.wordsFrom_append_blank`).  So a word of a text has only
blanks or an end of the text beside it, and what could be a word and has only
these beside it is one (`Text.mem_words_iff`).
-/
import MarketSearch.Proofs.Lists
import MarketSearch.Proofs.Token
import MarketSearch.Proofs.Words

namespace MarketSearch
namespace Text

variable {c : Char} {word w x y cs : List Char}

/-! ## Between blanks -/

/-- Nothing, or a text that ends with a blank. -/
def EndsBlank (cs : List Char) : Prop := ∀ c ∈ cs.getLast?, isBlank c = true

/-- Nothing, or a text that begins with a blank. -/
def StartsBlank (cs : List Char) : Prop := ∀ c ∈ cs.head?, isBlank c = true

instance (cs : List Char) : Decidable (EndsBlank cs) := Option.decidableForallMem cs.getLast?

instance (cs : List Char) : Decidable (StartsBlank cs) := Option.decidableForallMem cs.head?

/-- One text stands in another with nothing beside it but blanks. -/
def StandsIn (w s : String) : Prop :=
  ∃ x y : String, s = x ++ w ++ y ∧ EndsBlank x.toList ∧ StartsBlank y.toList

theorem EndsBlank.append (hx : EndsBlank x) (hy : EndsBlank y) : EndsBlank (x ++ y) := by
  intro c hc
  rw [List.getLast?_append] at hc
  rcases Option.or_eq_some_iff.mp hc with hc | ⟨-, hc⟩
  · exact hy c hc
  · exact hx c hc

theorem StartsBlank.append (hx : StartsBlank x) (hy : StartsBlank y) : StartsBlank (x ++ y) := by
  intro c hc
  rw [List.head?_append] at hc
  rcases Option.or_eq_some_iff.mp hc with hc | ⟨-, hc⟩
  · exact hx c hc
  · exact hy c hc

theorem endsBlank_concat (front : List Char) (hc : isBlank c = true) : EndsBlank (front ++ [c]) := by
  simpa [EndsBlank] using hc

theorem EndsBlank.eq_nil_or_concat (h : EndsBlank x) : x = [] ∨ ∃ front c, x = front ++ [c] ∧ isBlank c = true := by
  rcases List.eq_nil_or_concat x with rfl | ⟨front, c, rfl⟩
  · exact .inl rfl
  · rw [List.concat_eq_append] at h ⊢
    exact .inr ⟨front, c, rfl, h c (by simp)⟩

/-! ## Words -/

/-- **A blank parts words.** What is before it and what is after it are read apart. -/
theorem wordsFrom_append_blank (hc : isBlank c = true) (word cs ds : List Char) :
    wordsFrom word (cs ++ c :: ds) = wordsFrom word cs ++ wordsFrom [] ds := by
  induction cs generalizing word with
  | nil => cases word <;> simp [wordsFrom, hc]
  | cons d cs ih =>
    cases hd : isBlank d with
    | true => cases word <;> simp [wordsFrom, hd, ih]
    | false => simp [wordsFrom, hd, ih]

/-- A word is read where it is found between blanks. -/
theorem mem_wordsFrom_append (hw : IsWord w) (hx : EndsBlank x) (hy : StartsBlank y) :
    w ∈ wordsFrom [] (x ++ (w ++ y)) := by
  have hfront : w ∈ wordsFrom [] (w ++ y) := by
    have hself : w ∈ wordsFrom [] w := by simp [wordsFrom_of_isWord hw]
    cases y with
    | nil => rwa [List.append_nil]
    | cons c y =>
      rw [wordsFrom_append_blank (hy c rfl)]
      exact List.mem_append_left _ hself
  rcases hx.eq_nil_or_concat with rfl | ⟨front, c, rfl, hc⟩
  · exact hfront
  · rw [List.append_assoc, List.singleton_append, wordsFrom_append_blank hc]
    exact List.mem_append_right _ hfront

/-- A word that is read is found between blanks, or is the one that was begun. -/
theorem exists_of_mem_wordsFrom (h : w ∈ wordsFrom word cs) :
    ∃ x y, word.reverse ++ cs = x ++ (w ++ y) ∧ EndsBlank x ∧ StartsBlank y := by
  have hstart : EndsBlank [] := by simp [EndsBlank]
  induction cs generalizing word with
  | nil =>
    cases word with
    | nil => simp [wordsFrom] at h
    | cons d word =>
      obtain rfl := List.mem_singleton.mp h
      exact ⟨[], [], by simp, hstart, by simp [StartsBlank]⟩
  | cons c cs ih =>
    cases hc : isBlank c with
    | false =>
      rw [wordsFrom, if_neg (by simp [hc])] at h
      obtain ⟨x, y, heq, hx, hy⟩ := ih h
      exact ⟨x, y, by simpa using heq, hx, hy⟩
    | true =>
      -- What was begun ends here, and the rest is read afresh.
      have hrest : w ∈ wordsFrom [] cs →
          ∃ x y, word.reverse ++ c :: cs = x ++ (w ++ y) ∧ EndsBlank x ∧ StartsBlank y := by
        intro h
        obtain ⟨x, y, heq, hx, hy⟩ := ih h
        rw [List.reverse_nil, List.nil_append] at heq
        exact ⟨word.reverse ++ [c] ++ x, y, by simp [heq], (endsBlank_concat _ hc).append hx, hy⟩
      rw [wordsFrom, if_pos hc] at h
      cases word with
      | nil => exact hrest h
      | cons d word =>
        rcases List.mem_cons.mp h with rfl | h
        · exact ⟨[], c :: cs, rfl, hstart, by simpa [StartsBlank] using hc⟩
        · exact hrest h

/-- **The words of a text** are those that stand in it between blanks. -/
theorem mem_words_iff {s w : String} : w ∈ words s ↔ IsWord w.toList ∧ StandsIn w s := by
  constructor
  · intro h
    refine ⟨isWord_of_mem_words h, ?_⟩
    obtain ⟨cs, hcs, rfl⟩ := List.mem_map.mp h
    obtain ⟨x, y, heq, hx, hy⟩ := exists_of_mem_wordsFrom hcs
    refine ⟨String.ofList x, String.ofList y, String.toList_inj.mp ?_, ?_, ?_⟩
    · simpa using heq
    · rwa [String.toList_ofList]
    · rwa [String.toList_ofList]
  · rintro ⟨hw, x, y, rfl, hx, hy⟩
    refine List.mem_map.mpr ⟨w.toList, ?_, String.ofList_toList⟩
    rw [String.toList_append, String.toList_append, List.append_assoc]
    exact mem_wordsFrom_append hw hx hy

/-- What stands in a text still does when blanks, and other text beyond them, are put around it. -/
theorem StandsIn.extend {s w front back : String} (h : StandsIn w s) (hfront : EndsBlank front.toList)
    (hback : StartsBlank back.toList) : StandsIn w (front ++ s ++ back) := by
  obtain ⟨x, y, rfl, hx, hy⟩ := h
  refine ⟨front ++ x, y ++ back, by simp only [String.append_assoc], ?_, ?_⟩
  · rw [String.toList_append]
    exact hfront.append hx
  · rw [String.toList_append]
    exact hy.append hback

end Text

/-! ## Scopes -/

theorem Claims.hasScope_iff_standsIn {c : Claims} {wanted : String} :
    c.hasScope wanted = true ↔ Text.IsWord wanted.toList ∧ Text.StandsIn wanted c.scope := by
  rw [Verifier.hasScope_iff, Text.mem_words_iff]

/-- **Scopes are granted as whole words.** Claims grant what is one word and stands in their scopes with
nothing beside it but blanks.  They still grant it when blanks are put around their scopes, and more text beyond
these.  What is empty or has a blank in it they never grant, and where it is required no token is let in. -/
theorem Claims.scopes_are_whole_words (c : Claims) (wanted : String) :
    (c.hasScope wanted = true ↔
      wanted ≠ "" ∧ (∀ d ∈ wanted.toList, Text.isBlank d = false) ∧ Text.StandsIn wanted c.scope) ∧
    (c.hasScope wanted = true → ∀ front back : String, Text.EndsBlank front.toList → Text.StartsBlank back.toList →
      hasScope { c with scope := front ++ c.scope ++ back } wanted = true) ∧
    (wanted = "" ∨ (∃ d ∈ wanted.toList, Text.isBlank d = true) →
      c.hasScope wanted = false ∧ ∀ secret now token, Verifier.authorize ⟨secret, wanted⟩ now token ≠ .ok c) := by
  refine ⟨?words, fun h front back hfront hback => ?more, fun h => ?refused⟩
  case words => rw [hasScope_iff_standsIn, Text.IsWord, ne_eq, String.toList_eq_nil_iff, and_assoc]
  case more =>
    obtain ⟨hword, hstands⟩ := hasScope_iff_standsIn.mp h
    exact hasScope_iff_standsIn.mpr ⟨hword, hstands.extend hfront hback⟩
  case refused =>
    have hnone : wanted ∉ Text.words c.scope := by
      rw [Text.mem_words_iff]
      rintro ⟨⟨hne, hbare⟩, -⟩
      rcases h with rfl | ⟨d, hd, hblank⟩
      · exact hne rfl
      · rw [hbare d hd] at hblank
        cases hblank
    refine ⟨?_, fun _ _ _ hread => hnone (Verifier.authorize_eq_ok_iff.mp hread).2⟩
    rwa [← Bool.not_eq_true, Verifier.hasScope_iff]

/-- Scopes between a tab and a wide space: the one in the middle is granted, also in more text; what it begins with
is not, nor are two of them at once; and nobody is let in where the empty scope is required. -/
theorem Claims.scopes_of_reader :
    let c : Claims := ⟨"u", "openid\tproduct:read\u3000profile", 0⟩
    c.hasScope "product:read" = true ∧
    hasScope { c with scope := "orders\n" ++ c.scope ++ "" } "product:read" = true ∧
    c.hasScope "product" = false ∧
    c.hasScope "product:read\u3000profile" = false ∧
    ∀ token, Verifier.authorize ⟨"s", ""⟩ 0 token ≠ .ok c := by
  intro c
  have hstands : Text.StandsIn "product:read" c.scope := ⟨"openid\t", "\u3000profile", by decide, by decide, by decide⟩
  have hread : c.hasScope "product:read" = true :=
    (scopes_are_whole_words c "product:read").1.mpr ⟨by decide, forall_mem_of_all (by decide), hstands⟩
  refine ⟨hread, ?_, by decide, ?_, ?_⟩
  · exact (scopes_are_whole_words c "product:read").2.1 hread "orders\n" "" (by decide) (by decide)
  · exact ((scopes_are_whole_words c "product:read\u3000profile").2.2 (.inr ⟨'\u3000', by decide, by decide⟩)).1
  · exact ((scopes_are_whole_words c "").2.2 (.inl rfl)).2 "s" 0

end MarketSearch
