/-
What is written is read back.

What is written of a value has a tree in the grammar of texts, and what the
tree is worth is what is read (`Json.ReadsAs`).  Each character of a string
becomes a piece and each whole number its digits; an array or an object is read
as its items are and takes one level of the nesting that is left.  A value
without binary numbers is read as itself (`Json.ofChars?_of_isExact`).
-/
import MarketSearch.Json.Writer
import MarketSearch.Proofs.Numeral
import MarketSearch.Proofs.Reading

namespace MarketSearch

namespace Json

open Grammar

/-! ## Strings -/

theorem lookup_of_escapeLetter? {c l : Char} (h : escapeLetter? c = .some l) :
    shortEscapes.lookup l = .some c := by
  unfold escapeLetter? at h
  split at h <;> cases h <;> rfl

/-- A character is written as one piece, which stands for it. -/
theorem exists_piece (c : Char) :
    ∃ p : Piece, p.chars = writeChar c ∧ ∀ ps, text? (p :: ps) = (text? ps).map (c :: ·) := by
  unfold writeChar
  cases hletter : escapeLetter? c with
  | some l => exact ⟨.short l c (lookup_of_escapeLetter? hletter), rfl, fun _ => rfl⟩
  | none =>
    by_cases hcontrol : c.toNat < 0x20
    · have hhex : ∀ n < 0x20, IsHex4 ['0', '0', Numeral.digitChar (n / 16), Numeral.digitChar (n % 16)] n := by
        decide
      have hunpaired : ∀ n < 0x20, isHighSurrogate n = false ∧ isLowSurrogate n = false := by decide
      obtain ⟨hhigh, hlow⟩ := hunpaired _ hcontrol
      refine ⟨.unit _ c.toNat (hhex _ hcontrol), by simp [hcontrol, Piece.chars], fun ps => ?_⟩
      rw [text?.eq_def]
      simp [hhigh, hlow, Char.ofNat_toNat]
    · have hplain : isPlain c = true := by
        refine isPlain_iff.mpr ⟨?_, ?_, Nat.not_lt.mp hcontrol⟩
        · rintro rfl
          cases hletter
        · rintro rfl
          cases hletter
      exact ⟨.plain c hplain, by simp [hcontrol, Piece.chars], fun _ => rfl⟩

/-- A text is written as the pieces of its characters. -/
theorem exists_pieces (s : String) : ∃ ps, quoted ps = writeString s ∧ string? ps = .some s := by
  have hpieces : ∀ cs : List Char, ∃ ps : List Piece,
      ps.flatMap Piece.chars = cs.flatMap writeChar ∧ text? ps = .some cs := by
    intro cs
    induction cs with
    | nil => exact ⟨[], rfl, rfl⟩
    | cons c cs ih =>
      obtain ⟨ps, hchars, htext⟩ := ih
      obtain ⟨p, hp, hstands⟩ := exists_piece c
      exact ⟨p :: ps, by simp [hp, hchars], by simp [hstands, htext]⟩
  obtain ⟨ps, hchars, htext⟩ := hpieces s.toList
  exact ⟨ps, by rw [quoted, hchars, writeString], by rw [string?, htext, Option.map_some, String.ofList_toList]⟩

/-! ## Whole numbers -/

/-- The digits of a number, as the grammar has them. -/
def digitsOf (n : Nat) : Digits :=
  ⟨Numeral.digits n, Numeral.digits_ne_nil n, List.all_eq_true.mpr fun _ => Numeral.isDigit_of_mem_digits⟩

/-- A whole number without point and exponent. -/
def numberOf (negative : Bool) (n : Nat) : Number where
  negative := negative
  whole := digitsOf n
  fraction := .none
  exponent := .none
  whole_eq h := by
    by_cases hn : n = 0
    · subst hn
      exact Numeral.digits_zero
    · exact absurd h (Numeral.head?_digits hn)

/-- A whole number of 64 bits, signed if it is negative. -/
def IsWhole64 (n : Int) : Prop := -(Nat.pow 2 63 : Int) ≤ n ∧ n < (Nat.pow 2 64 : Int)

theorem exists_number {n : Int} (h : IsWhole64 n) :
    ∃ t : Number, t.chars = Numeral.intChars n ∧ t.parts.value? = .some (.int n) := by
  obtain ⟨hlow, hhigh⟩ := h
  cases n with
  | ofNat n =>
    refine ⟨numberOf false n, ?_, ?_⟩
    · simp [numberOf, digitsOf, Number.chars, Number.signChars, Number.fractionChars, Number.exponentChars,
        Numeral.intChars]
    · have hn : n < Nat.pow 2 64 := Int.ofNat_lt.mp hhigh
      simp [numberOf, digitsOf, Number.parts, Numeric.value?, Numeral.value?_digits, hn]
  | negSucc n =>
    refine ⟨numberOf true (n + 1), ?_, ?_⟩
    · simp [numberOf, digitsOf, Number.chars, Number.signChars, Number.fractionChars, Number.exponentChars,
        Numeral.intChars]
    · have hn : n + 1 ≤ Nat.pow 2 63 := by omega
      simp [numberOf, digitsOf, Number.parts, Numeric.value?, Numeral.value?_digits, hn]
      omega

/-! ## Values -/

/-- What is written of a value has a tree that is worth another one, where arrays and objects may nest
so deep. -/
def ReadsAs (depth : Nat) (v w : Json) : Prop := ∃ t : Value, t.chars = v.chars ∧ t.json? depth = .some w

/-- A field is read as another one of the same name. -/
structure FieldReadsAs (depth : Nat) (f g : String × Json) : Prop where
  name : f.1 = g.1
  value : ReadsAs depth f.2 g.2

/-- The member is written like a field. -/
def IsMemberOf (f : String × Json) (m : Member) : Prop :=
  nameChars m.1 ++ (m.2.before.val ++ (m.2.inner.chars ++ m.2.after.val)) = writeString f.1 ++ ':' :: f.2.chars

variable {depth : Nat}

theorem readsAs_null : ReadsAs depth .null .null := ⟨.null, rfl, by cases depth <;> rfl⟩

theorem readsAs_bool (b : Bool) : ReadsAs depth (.bool b) (.bool b) :=
  ⟨.bool b, by cases b <;> rfl, by cases depth <;> rfl⟩

theorem readsAs_int {n : Int} (h : IsWhole64 n) : ReadsAs depth (.int n) (.int n) := by
  obtain ⟨t, hchars, hvalue⟩ := exists_number h
  exact ⟨.number t, hchars, by cases depth <;> exact hvalue⟩

theorem readsAs_str (s : String) : ReadsAs depth (.str s) (.str s) := by
  obtain ⟨ps, hchars, htext⟩ := exists_pieces s
  refine ⟨.string ps, hchars, ?_⟩
  cases depth <;> simp [Value.json?, htext]

theorem chars_items {v : Json} {vs : List Json} {t : Value} {ts : List Value} (h : t.chars = v.chars)
    (hs : List.Forall₂ (fun v t => t.chars = v.chars) vs ts) :
    t.chars ++ Value.itemsChars (ts.map .tight) = itemChars (v :: vs) := by
  induction hs generalizing v t with
  | nil => simp [h, Value.itemsChars, itemChars]
  | cons h' _ ih => simp [h, Value.itemsChars, itemChars, Padded.tight, Space.none, ih h']

theorem chars_fields {f : String × Json} {fs : List (String × Json)} {m : Member} {ms : List Member}
    (h : IsMemberOf f m) (hs : List.Forall₂ IsMemberOf fs ms) :
    nameChars m.1 ++ (m.2.before.val ++ (m.2.inner.chars ++ (m.2.after.val ++ Value.membersChars ms))) =
      fieldChars (f :: fs) := by
  have hone := fun rest => congrArg (· ++ rest) h
  simp only [List.append_assoc, List.cons_append] at hone
  induction hs generalizing f m with
  | nil => simp [hone, Value.membersChars, fieldChars]
  | cons h' _ ih =>
    have hrest := fun rest => congrArg (· ++ rest) h'
    simp only [List.append_assoc, List.cons_append] at hrest
    simp [hone, Value.membersChars, fieldChars, ih h' hrest]

theorem FieldReadsAs.exists_member {f g : String × Json} (h : FieldReadsAs depth f g) :
    ∃ m, IsMemberOf f m ∧ Value.member? string? (Value.json? depth) m = .some g := by
  obtain ⟨t, hchars, hvalue⟩ := h.value
  obtain ⟨ps, hname, htext⟩ := exists_pieces f.1
  refine ⟨(.tight ps, .tight t), ?_, ?_⟩
  · simp [IsMemberOf, nameChars, Padded.tight, Space.none, hname, hchars]
  · simp [Value.member?, Padded.tight, htext, hvalue, h.name]

theorem ReadsAs.arr {vs ws : List Json} (h : List.Forall₂ (ReadsAs depth) vs ws) :
    ReadsAs (depth + 1) (.arr vs) (.arr ws) := by
  obtain ⟨ts, hchars, hvalues⟩ := exists_forall₂_between h
  have hmap := mapM_eq_some_iff.mpr hvalues
  cases hchars with
  | nil =>
    cases hvalues
    exact ⟨.emptyArray .none, rfl, rfl⟩
  | @cons v t vs ts hv hvs =>
    refine ⟨.array (.tight t) (ts.map .tight), ?_, ?_⟩
    · have hitems := chars_items hv hvs
      simpa [Value.chars, Padded.tight, Space.none, chars] using hitems
    · refine Option.map_eq_some_iff.mpr ⟨ws, ?_, rfl⟩
      change ((t :: ts).map Padded.tight).mapM (fun e : Padded Value => e.inner.json? depth) = .some ws
      rwa [mapM_map_eq]

theorem ReadsAs.obj {fs gs : List (String × Json)} (h : List.Forall₂ (FieldReadsAs depth) fs gs) :
    ReadsAs (depth + 1) (.obj fs) (.obj gs) := by
  obtain ⟨ms, hchars, hvalues⟩ := exists_forall₂_between (h.imp fun _ _ hf => hf.exists_member)
  have hmap := mapM_eq_some_iff.mpr hvalues
  cases hchars with
  | nil =>
    cases hvalues
    exact ⟨.emptyObject .none, rfl, rfl⟩
  | @cons f m fs ms hf hfs =>
    refine ⟨.object m ms, ?_, Option.map_eq_some_iff.mpr ⟨gs, hmap, rfl⟩⟩
    have hmembers := chars_fields hf hfs
    simpa [Value.chars, chars] using hmembers

/-- **What is written of a value is read as the value of its tree**, if it nests no deeper than is
read. -/
theorem ReadsAs.ofChars? {v w : Json} (h : ReadsAs maxDepth v w) : Json.ofChars? v.chars = .some w := by
  obtain ⟨t, hchars, hvalue⟩ := h
  have hread := ofChars?_chars (.tight t)
  simpa [Document.chars, Padded.tight, Space.none, hchars, hvalue] using hread

/-! ## Values without binary numbers -/

/-- A value without binary numbers, of which arrays and objects nest at most so deep. -/
inductive IsExact : Nat → Json → Prop where
  | null {depth : Nat} : IsExact depth .null
  | bool {depth : Nat} (b : Bool) : IsExact depth (.bool b)
  | int {depth : Nat} {n : Int} (h : IsWhole64 n) : IsExact depth (.int n)
  | str {depth : Nat} (s : String) : IsExact depth (.str s)
  | arr {depth : Nat} {items : List Json} (h : ∀ v ∈ items, IsExact depth v) : IsExact (depth + 1) (.arr items)
  | obj {depth : Nat} {fields : List (String × Json)} (h : ∀ f ∈ fields, IsExact depth f.2) :
    IsExact (depth + 1) (.obj fields)

theorem IsExact.readsAs {v : Json} (h : v.IsExact depth) : ReadsAs depth v v := by
  induction h with
  | null => exact readsAs_null
  | bool b => exact readsAs_bool b
  | int hn => exact readsAs_int hn
  | str s => exact readsAs_str s
  | arr _ ih => exact .arr (List.forall₂_same.mpr ih)
  | obj _ ih => exact .obj (List.forall₂_same.mpr fun f hf => ⟨rfl, ih f hf⟩)

/-- A value without binary numbers is read back as it was written. -/
theorem ofChars?_of_isExact {v : Json} (h : v.IsExact maxDepth) : ofChars? v.chars = .some v := h.readsAs.ofChars?

end Json
end MarketSearch
