/-
Texts and the blanks around them.

A text is its trimmed form with blanks before and after it (`Text.exists_trim`),
and the trimmed form begins and ends with something else (`Text.head?_trim`,
`Text.getLast?_trim`).
-/
import MarketSearch.Proofs.Lists
import MarketSearch.Text.Blank

namespace MarketSearch
namespace Text

variable {cs : List Char} {c : Char}

/-- Blanks, or nothing at all. -/
abbrev Blanks := { cs : List Char // cs.all isBlank = true }

/-! ## What is taken off -/

theorem exists_blanks (cs : List Char) : ∃ b : Blanks, cs = b.val ++ trimStart cs :=
  ⟨⟨cs.takeWhile isBlank, List.all_takeWhile⟩, List.takeWhile_append_dropWhile.symm⟩

theorem exists_blanks_end (cs : List Char) : ∃ b : Blanks, cs = trimEnd cs ++ b.val := by
  obtain ⟨⟨b, hb⟩, h⟩ := exists_blanks cs.reverse
  refine ⟨⟨b.reverse, by simpa using hb⟩, ?_⟩
  have hreverse := congrArg List.reverse h
  simpa [trimEnd, trimStart] using hreverse

/-- A text is its trimmed form with blanks around it. -/
theorem exists_trim (cs : List Char) : ∃ before after : Blanks, cs = before.val ++ (trim cs ++ after.val) := by
  obtain ⟨before, hbefore⟩ := exists_blanks cs
  obtain ⟨after, hafter⟩ := exists_blanks_end (trimStart cs)
  exact ⟨before, after, by rw [trim, ← hafter, ← hbefore]⟩

/-! ## What is left -/

theorem head?_trimStart (h : (trimStart cs).head? = .some c) : isBlank c = false := by
  have hhead := List.head?_dropWhile_not isBlank cs
  rw [trimStart] at h
  rwa [h] at hhead

theorem getLast?_trimEnd (h : (trimEnd cs).getLast? = .some c) : isBlank c = false := by
  rw [trimEnd, List.getLast?_reverse, ← trimStart] at h
  exact head?_trimStart h

/-- A trimmed text begins with something else than a blank. -/
theorem head?_trim (h : (trim cs).head? = .some c) : isBlank c = false := by
  obtain ⟨after, hafter⟩ : ∃ after : Blanks, trimStart cs = trim cs ++ after.val := exists_blanks_end (trimStart cs)
  have hstart : (trimStart cs).head? = .some c := by
    rw [hafter, List.head?_append_of_ne_nil _ (List.ne_nil_of_mem (List.mem_of_mem_head? h)), h]
  exact head?_trimStart hstart

/-- A trimmed text ends with something else than a blank. -/
theorem getLast?_trim (h : (trim cs).getLast? = .some c) : isBlank c = false := getLast?_trimEnd h

end Text
end MarketSearch
