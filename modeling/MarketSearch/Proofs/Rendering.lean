/-
Filters are told apart by how they are rendered.

A character of a quoted text is written with its letter or its number behind a
backslash, or as it is, and what is written says which character it is and
where the next one begins (`Text.unescape?_quotedChar`).  A bare quote is none
of them, so a quoted text ends where it says, whatever it holds and whatever
follows it (`Text.quoted_append_inj`).
-/
import MarketSearch.Proofs.Lists
import MarketSearch.Proofs.Numeral
import MarketSearch.Proofs.Run
import MarketSearch.Text.Split

namespace MarketSearch
namespace Text

variable {c : Char} {cs ds s t : List Char}

/-! ## Characters -/

/-- The characters that have a letter of their own behind a backslash. -/
def escapeLetters : List (Char × Char) :=
  [('0', '\x00'), ('t', '\t'), ('r', '\r'), ('n', '\n'), ('"', '"'), ('\\', '\\')]

/-- The character at the front of the inside of a quoted text, and what comes after it. -/
def unescape? : List Char → Option (Char × List Char)
  | [] => .none
  | '"' :: _ => .none
  | '\\' :: 'u' :: '\x7b' :: cs =>
    (splitFirst? '\x7d' cs).bind fun p => (Numeral.value? 16 p.1).map fun n => (Char.ofNat n, p.2)
  | '\\' :: l :: cs => (escapeLetters.lookup l).map fun c => (c, cs)
  | c :: cs => .some (c, cs)

theorem escapeLetter?_cases {l : Char} (h : escapeLetter? c = .some l) : (l, c) ∈ escapeLetters := by
  unfold escapeLetter? at h
  split at h <;> cases h <;> decide

theorem unescape?_letter {l : Char} (h : (l, c) ∈ escapeLetters) (cs : List Char) :
    unescape? ('\\' :: l :: cs) = .some (c, cs) := by
  simp only [escapeLetters, List.mem_cons, Prod.mk.injEq, List.not_mem_nil, or_false] at h
  rcases h with ⟨rfl, rfl⟩ | ⟨rfl, rfl⟩ | ⟨rfl, rfl⟩ | ⟨rfl, rfl⟩ | ⟨rfl, rfl⟩ | ⟨rfl, rfl⟩ <;> rfl

theorem unescape?_number (c : Char) (cs : List Char) :
    unescape? ('\\' :: 'u' :: '\x7b' :: (Numeral.hex c.toNat ++ '\x7d' :: cs)) = .some (c, cs) := by
  have hbrace : '\x7d' ∉ Numeral.hex c.toNat := by
    have hdigits := Numeral.forall_mem_inBase (P := fun d => d ≠ '\x7d') (b := 14) (by decide) c.toNat
    exact fun h => hdigits _ h rfl
  have hvalue : Numeral.value? 16 (Numeral.hex c.toNat) = .some c.toNat := Numeral.value?_inBase (by decide) c.toNat
  simp [unescape?, splitFirst?_append hbrace, hvalue]

/-- **A character is read back** from how it is quoted, and nothing that follows is taken for a part of it. -/
theorem unescape?_quotedChar (c : Char) (cs : List Char) : unescape? (quotedChar c ++ cs) = .some (c, cs) := by
  unfold quotedChar
  cases hl : escapeLetter? c with
  | some l => exact unescape?_letter (escapeLetter?_cases hl) cs
  | none =>
    have hquote : c ≠ '"' := by
      rintro rfl
      cases hl
    have hslash : c ≠ '\\' := by
      rintro rfl
      cases hl
    dsimp only
    split
    · rw [List.append_assoc, List.append_assoc]
      exact unescape?_number c cs
    · rw [List.singleton_append, unescape?] <;> grind

/-! ## Texts -/

/-- The inside of a quoted text is over at the first bare quote. -/
theorem flatMap_quotedChar_inj (h : cs.flatMap quotedChar ++ '"' :: s = ds.flatMap quotedChar ++ '"' :: t) :
    cs = ds ∧ s = t := by
  have hquote : ∀ r, unescape? ('"' :: r) = .none := fun _ => rfl
  induction cs generalizing ds with
  | nil =>
    cases ds with
    | nil => exact ⟨rfl, List.tail_eq_of_cons_eq h⟩
    | cons d ds =>
      have hread := congrArg unescape? h
      rw [List.flatMap_cons, List.append_assoc, unescape?_quotedChar, List.flatMap_nil, List.nil_append, hquote]
        at hread
      cases hread
  | cons c cs ih =>
    have hread := congrArg unescape? h
    rw [List.flatMap_cons, List.append_assoc, unescape?_quotedChar] at hread
    cases ds with
    | nil =>
      rw [List.flatMap_nil, List.nil_append, hquote] at hread
      cases hread
    | cons d ds =>
      rw [List.flatMap_cons, List.append_assoc, unescape?_quotedChar] at hread
      obtain ⟨rfl, hrest⟩ := Prod.mk.inj (Option.some.inj hread)
      obtain ⟨rfl, hend⟩ := ih hrest
      exact ⟨rfl, hend⟩

/-- **A quoted text tells itself from what follows it.** -/
theorem quoted_append_inj {q r s t : String} : quoted q ++ s = quoted r ++ t ↔ q = r ∧ s = t := by
  constructor
  · intro h
    have hinner : q.toList.flatMap quotedChar ++ '"' :: s.toList = r.toList.flatMap quotedChar ++ '"' :: t.toList := by
      have hlist := congrArg String.toList h
      simpa [quoted, quotedChars] using hlist
    obtain ⟨hq, hs⟩ := flatMap_quotedChar_inj hinner
    exact ⟨String.toList_inj.mp hq, String.toList_inj.mp hs⟩
  · rintro ⟨rfl, rfl⟩
    rfl

/-! ## Control characters -/

theorem isUnprintable_of_isControl (h : isControl c = true) : isUnprintable c = true := by
  have hranges : inRanges unprintableRanges c.toNat = true := by
    simp only [isControl, Bool.or_eq_true, Bool.and_eq_true, decide_eq_true_eq] at h
    rcases h with h | ⟨hlow, hhigh⟩
    · exact inRanges_iff.mpr ⟨(0x0, 0x1F), List.mem_of_getElem? (i := 0) rfl, by omega, by omega⟩
    · exact inRanges_iff.mpr ⟨(0x7F, 0xA0), List.mem_of_getElem? (i := 1) rfl, by omega, by omega⟩
  simp [isUnprintable, hranges]

theorem isControl_of_mem_quotedChar {d : Char} (h : d ∈ quotedChar c) : isControl d = false := by
  have hletters : ∀ p ∈ escapeLetters, isControl p.1 = false := forall_mem_of_all (by decide)
  have hdigits : ∀ d ∈ Numeral.hex c.toNat, isControl d = false :=
    Numeral.forall_mem_inBase (P := fun d => isControl d = false) (by decide) c.toNat
  unfold quotedChar at h
  cases hl : escapeLetter? c with
  | some l =>
    rw [hl] at h
    simp only [List.mem_cons, List.not_mem_nil, or_false] at h
    rcases h with rfl | rfl
    · decide
    · exact hletters _ (escapeLetter?_cases hl)
  | none =>
    rw [hl] at h
    dsimp only at h
    split at h
    · simp only [List.mem_append, List.mem_cons, List.not_mem_nil, or_false] at h
      rcases h with (((rfl | rfl | rfl) | h) | rfl)
      · decide
      · decide
      · decide
      · exact hdigits d h
      · decide
    · next hprints =>
      rw [List.mem_singleton.mp h, ← Bool.not_eq_true]
      exact fun hcontrol => hprints (isUnprintable_of_isControl hcontrol)

/-- No control character stands in a quoted text as itself. -/
theorem isControl_of_mem_quoted {q : String} (h : c ∈ (quoted q).toList) : isControl c = false := by
  rw [quoted, String.toList_ofList, quotedChars] at h
  simp only [List.mem_cons, List.mem_append, List.mem_flatMap, List.not_mem_nil, or_false] at h
  rcases h with rfl | ⟨d, -, h⟩ | rfl
  · decide
  · exact isControl_of_mem_quotedChar h
  · decide

end Text

/-! ## Filters -/

/-- What texts begin with makes no difference between them. -/
theorem append_left_cancel_iff {front s t : String} : front ++ s = front ++ t ↔ s = t := by
  rw [← String.toList_inj, String.toList_append, String.toList_append, List.append_cancel_left_eq, String.toList_inj]

namespace Filter

/-- What follows the query in a rendering. -/
def textEnd (d : SortDirection) : String := ", sort=" ++ d.label ++ ")"

theorem text_eq (f : Filter) : f.text = "ProductFilter(query=" ++ (Text.quoted f.query ++ textEnd f.direction) := by
  unfold text textEnd
  simp only [String.append_assoc]

theorem textEnd_inj {d e : SortDirection} : textEnd d = textEnd e ↔ d = e := by
  cases d <;> cases e <;> decide

theorem text_inj {f g : Filter} : f.text = g.text ↔ f = g := by
  rw [text_eq, text_eq, append_left_cancel_iff, Text.quoted_append_inj, textEnd_inj]
  obtain ⟨q, d⟩ := f
  obtain ⟨r, e⟩ := g
  rw [mk.injEq]

theorem isControl_of_mem_text {f : Filter} {c : Char} (h : c ∈ f.text.toList) : Text.isControl c = false := by
  have hopening : ∀ c ∈ "ProductFilter(query=".toList, Text.isControl c = false := forall_mem_of_all (by decide)
  have hend : ∀ d, ∀ c ∈ (textEnd d).toList, Text.isControl c = false := by
    intro d
    cases d <;> exact forall_mem_of_all (by decide)
  rw [text_eq, String.toList_append, String.toList_append] at h
  rcases List.mem_append.mp h with h | h
  · exact hopening c h
  · rcases List.mem_append.mp h with h | h
    · exact Text.isControl_of_mem_quoted h
    · exact hend _ c h

/-- **A rendering tells which filter it is of.** Filters that are rendered alike are the same, so that of two
filters refused, by whatever engines, the messages are the same just when the filters are; no query can take the
place of its closing quote and what follows; and nothing in a rendering is a control character. -/
theorem renderings_are_unambiguous :
    (∀ f g : Filter, f.text = g.text ↔ f = g) ∧
    (∀ (e e' : SearchEngine) (turn turn' : Nat) (f g : Filter) (m m' : String),
      (e.search turn f).result = .error (.invalidInput m) → (e'.search turn' g).result = .error (.invalidInput m') →
        m = "INVALID: " ++ f.text ∧ (m = m' ↔ f = g)) ∧
    (∀ q r s t : String, Text.quoted q ++ s = Text.quoted r ++ t ↔ q = r ∧ s = t) ∧
    ∀ f : Filter, ∀ c ∈ f.text.toList, Text.isControl c = false := by
  refine ⟨fun _ _ => text_inj, ?refused, fun _ _ _ _ => Text.quoted_append_inj, fun _ _ => isControl_of_mem_text⟩
  intro e e' turn turn' f g m m' hf hg
  obtain ⟨-, rfl⟩ := ((e.answered_search turn f).refused m).mp hf
  obtain ⟨-, rfl⟩ := ((e'.answered_search turn' g).refused m').mp hg
  refine ⟨rfl, ?_⟩
  rw [append_left_cancel_iff, text_inj]

/-- A query that imitates the end of a rendering, beside the filter that it imitates: both are refused for
the character at the end, and with different messages. -/
theorem renderings_of_imitator :
    let e : SearchEngine := .ofRegistry .empty
    let f : Filter := ⟨"tv\", sort=DESC)\x00", .ascending⟩
    let g : Filter := ⟨"tv\x00", .descending⟩
    let m := "INVALID: ProductFilter(query=\"tv\\\", sort=DESC)\\0\", sort=ASC)"
    let m' := "INVALID: ProductFilter(query=\"tv\\0\", sort=DESC)"
    (e.search 0 f).result = .error (.invalidInput m) ∧ (e.search 0 g).result = .error (.invalidInput m') ∧ m ≠ m' := by
  intro e f g m m'
  have hf : (e.search 0 f).result = .error (.invalidInput m) :=
    ((e.answered_search 0 f).refused m).mpr ⟨by decide, by decide +kernel⟩
  have hg : (e.search 0 g).result = .error (.invalidInput m') :=
    ((e.answered_search 0 g).refused m').mpr ⟨by decide, by decide +kernel⟩
  have hne : f ≠ g := by decide
  exact ⟨hf, hg, fun h => hne ((renderings_are_unambiguous.2.1 e e 0 0 f g m m' hf hg).2.mp h)⟩

end Filter
end MarketSearch
