/-
The reader on the texts of the grammar: it reads the characters of a tree, to
their end and no further, and its result is the value of the tree, which may
be none (`reads_readValue`).

The argument follows the reader.  Each token is read up to what follows it,
and what follows a number has to be something else than more of it (`Ends`).
Whatever is made of scalars and names (`Computes`), arrays and objects are read
for any reader of values (`Reads`); the reader of one depth reads them with the
reader of the depth below, and the induction is on the depth.
-/
import MarketSearch.Proofs.Grammar

namespace MarketSearch
namespace Grammar

open Json

variable {rest : List Char}

/-! ## Space -/

theorem skipSpace_append (s : Space) (cs : List Char) : skipSpace (s.val ++ cs) = skipSpace cs :=
  List.dropWhile_append_of_pos (List.all_eq_true.mp s.property)

theorem skipSpace_cons {c : Char} (h : isSpace c = false) (cs : List Char) :
    skipSpace (c :: cs) = c :: cs :=
  List.dropWhile_cons_of_neg (by simp [h])

/-- A closing bracket or a mark that space may come before. -/
theorem skipSpace_append_cons (s : Space) {c : Char} (h : isSpace c = false) (cs : List Char) :
    skipSpace (s.val ++ c :: cs) = c :: cs := by
  rw [skipSpace_append, skipSpace_cons h]

/-! ## Numbers -/

/-- What follows does not go on with a number. -/
def Ends (rest : List Char) : Prop :=
  ∀ c, rest.head? = .some c → c.isDigit = false ∧ c ≠ '.' ∧ c ≠ 'e' ∧ c ≠ 'E'

theorem ends_nil : Ends [] := fun _ h => by cases h

theorem ends_append (s : Space) (h : Ends rest) : Ends (s.val ++ rest) := by
  obtain ⟨cs, hcs⟩ := s
  cases cs with
  | nil => exact h
  | cons c cs =>
    intro d hd
    cases hd
    have hspace := List.all_eq_true.mp hcs c List.mem_cons_self
    simp only [isSpace, Bool.or_eq_true, beq_iff_eq] at hspace
    rcases hspace with ((rfl | rfl) | rfl) | rfl <;> decide

theorem splitDigits_append (ds : Digits) (h : ∀ c, rest.head? = .some c → c.isDigit = false) :
    splitDigits (ds.val ++ rest) = (ds.val, rest) := by
  have hdigits := List.all_eq_true.mp ds.property.2
  rw [splitDigits, List.span_eq_takeWhile_dropWhile, takeWhile_append_of_head? hdigits h,
    dropWhile_append_of_head? hdigits h]

theorem Digits.isEmpty_val (ds : Digits) : ds.val.isEmpty = false := by simpa using ds.property.1

theorem Digits.exists_cons (ds : Digits) : ∃ c cs, ds.val = c :: cs ∧ c.isDigit = true := by
  obtain ⟨c, cs, h⟩ := List.exists_cons_of_ne_nil ds.property.1
  exact ⟨c, cs, h, List.all_eq_true.mp ds.property.2 c (by simp [h])⟩

theorem ne_of_isDigit {c d : Char} (hc : c.isDigit = true) (hd : d.isDigit = false) : c ≠ d := by
  rintro rfl
  rw [hc] at hd
  cases hd

namespace Number

theorem readExponent_chars (e : Option Exponent) (h : Ends rest) :
    readExponent (exponentChars e ++ rest) =
      .some (e.map fun e => (decide (e.sign = .some '-'), e.digits.val), rest) := by
  cases e with
  | none =>
    cases rest with
    | nil => rfl
    | cons c cs =>
      obtain ⟨-, -, he, hE⟩ := h c rfl
      simp [exponentChars, readExponent, he, hE]
  | some e =>
    obtain ⟨mark, sign, digits, hmark, hsign⟩ := e
    have hdigits := splitDigits_append digits fun c hc => (h c hc).1
    obtain ⟨d, ds, hd, hdigit⟩ := digits.exists_cons
    have hplus : d ≠ '+' := ne_of_isDigit hdigit (by decide)
    have hminus : d ≠ '-' := ne_of_isDigit hdigit (by decide)
    cases sign with
    | none =>
      rw [hd, List.cons_append] at hdigits
      simp [exponentChars, Exponent.chars, readExponent, hmark, hd, hplus, hminus, hdigits]
    | some c =>
      rcases hsign c rfl with rfl | rfl <;>
        simp [exponentChars, Exponent.chars, readExponent, hmark, hdigits, Digits.isEmpty_val]

/-- What follows a fraction: an exponent, or what follows the number. -/
theorem head?_exponentChars (e : Option Exponent) (h : Ends rest) {c : Char}
    (hc : (exponentChars e ++ rest).head? = .some c) : c.isDigit = false ∧ c ≠ '.' := by
  cases e with
  | none => exact ⟨(h c hc).1, (h c hc).2.1⟩
  | some e =>
    obtain rfl : e.mark = c := by simpa [exponentChars, Exponent.chars] using hc
    rcases e.mark_eq with he | hE
    · rw [he]
      decide
    · rw [hE]
      decide

theorem readFraction_chars (f : Option Digits) (h : ∀ c, rest.head? = .some c → c.isDigit = false ∧ c ≠ '.') :
    readFraction (fractionChars f ++ rest) = .some (f.map (·.val), rest) := by
  cases f with
  | none =>
    cases rest with
    | nil => rfl
    | cons c cs =>
      obtain ⟨-, hpoint⟩ := h c rfl
      simp [fractionChars, readFraction, hpoint]
  | some ds =>
    simp [fractionChars, readFraction, splitDigits_append ds fun c hc => (h c hc).1, Digits.isEmpty_val]

theorem head?_fractionChars (f : Option Digits)
    (h : ∀ c, rest.head? = .some c → c.isDigit = false ∧ c ≠ '.') {c : Char}
    (hc : (fractionChars f ++ rest).head? = .some c) : c.isDigit = false := by
  cases f with
  | none => exact (h c hc).1
  | some ds =>
    obtain rfl : '.' = c := by simpa [fractionChars] using hc
    decide

/-- A number is read up to what does not go on with it. -/
theorem readNumeric_chars (n : Number) (h : Ends rest) :
    readNumeric (n.chars ++ rest) = .some (n.parts, rest) := by
  obtain ⟨negative, whole, fraction, exponent, hwhole⟩ := n
  have hexponent := readExponent_chars exponent h
  have hfraction := readFraction_chars fraction fun c => head?_exponentChars exponent h
  have hdigits := splitDigits_append whole fun c =>
    head?_fractionChars fraction fun c => head?_exponentChars exponent h
  obtain ⟨d, ds, hd, hdigit⟩ := whole.exists_cons
  have hminus : d ≠ '-' := ne_of_isDigit hdigit (by decide)
  have hlone : d = '0' → ds = [] := by
    intro hzero
    have hwhole := hwhole (by rw [hd, hzero, List.head?_cons])
    rw [hd] at hwhole
    exact (List.cons.inj hwhole).2
  rw [hd, List.cons_append] at hdigits
  cases negative <;>
    simp +contextual [readNumeric, chars, signChars, parts, hd, hminus, hlone, hdigits, hfraction, hexponent]

theorem readNumber_chars (n : Number) (h : Ends rest) :
    readNumber (n.chars ++ rest) = n.parts.value?.map fun v => (v, rest) := by
  simp [readNumber, readNumeric_chars n h]

end Number

/-! ## Strings -/

theorem hex4?_append {digits : List Char} {n : Nat} (h : IsHex4 digits n) (cs : List Char) :
    hex4? (digits ++ cs) = .some (n, cs) := by
  obtain ⟨hlength, hvalue⟩ := h
  obtain ⟨a, b, c, d, rfl⟩ : ∃ a b c d, digits = [a, b, c, d] := List.length_eq_four.mp hlength
  simp [hex4?, hvalue]

theorem readEscape_short {letter c : Char} (h : shortEscapes.lookup letter = .some c) (cs : List Char) :
    readEscape (letter :: cs) = .some (c, cs) := by
  have hmem := mem_of_lookup h
  simp only [shortEscapes, List.mem_cons, List.not_mem_nil, or_false, Prod.mk.injEq] at hmem
  rcases hmem with ⟨rfl, rfl⟩ | ⟨rfl, rfl⟩ | ⟨rfl, rfl⟩ | ⟨rfl, rfl⟩ | ⟨rfl, rfl⟩ | ⟨rfl, rfl⟩ | ⟨rfl, rfl⟩ |
    ⟨rfl, rfl⟩ <;> rfl

theorem readEscape_unit {digits : List Char} {n : Nat} (h : IsHex4 digits n) (cs : List Char) :
    readEscape ('u' :: (digits ++ cs)) = readEscapedUnit n cs := by
  simp [readEscape, hex4?_append h]

/-- The rest of a string, where no unit comes first. -/
theorem readEscapedUnit_high {n : Nat} (hn : isHighSurrogate n = true) {ps : List Piece}
    (h : ∀ digits low hlow ps', ps ≠ .unit digits low hlow :: ps') :
    readEscapedUnit n (ps.flatMap Piece.chars ++ '"' :: rest) = .none := by
  cases ps with
  | nil => simp [readEscapedUnit, hn]
  | cons p ps =>
    cases p with
    | plain c hc => simp [readEscapedUnit, hn, Piece.chars, (isPlain_iff.mp hc).2.1]
    | short letter c hc =>
      have hletter : letter ≠ 'u' := by
        rintro rfl
        have hnone : shortEscapes.lookup 'u' = .none := by decide
        rw [hnone] at hc
        cases hc
      simp [readEscapedUnit, hn, Piece.chars, hletter]
    | unit digits low hlow => exact absurd rfl (h digits low hlow ps)

theorem readStringBody_escape {fuel : Nat} {d : Char} {cs r : List Char} {t : Option (List Char)}
    (h : readEscape cs = .some (d, r)) (hr : readStringBody fuel r = t.map fun ds => (ds, rest)) :
    readStringBody (fuel + 1) ('\\' :: cs) = (t.map (d :: ·)).map fun ds => (ds, rest) := by
  cases t <;> simp [readStringBody, h, hr]

theorem readStringBody_refused {cs : List Char} (h : readEscape cs = .none) (fuel : Nat) :
    readStringBody (fuel + 1) ('\\' :: cs) = .none := by
  simp [readStringBody, h]

/-- A string is read up to its closing quote. -/
theorem readStringBody_chars {ps : List Piece} {fuel : Nat} (hfuel : ps.length < fuel) :
    readStringBody fuel (ps.flatMap Piece.chars ++ '"' :: rest) = (text? ps).map fun cs => (cs, rest) := by
  -- by the recursion of `text?`, which takes the two halves of a pair of surrogates in one step
  fun_induction text? ps generalizing fuel with
    (obtain ⟨fuel, rfl⟩ := Nat.exists_eq_add_one_of_ne_zero (Nat.ne_zero_of_lt hfuel)
     simp only [List.length_nil, List.length_cons, Nat.add_lt_add_iff_right, List.flatMap_nil,
       List.flatMap_cons, List.append_assoc, List.cons_append, List.nil_append, Piece.chars] at hfuel ⊢)
  | case1 => simp [readStringBody]
  | case2 c hc ps ih =>
    obtain ⟨hquote, hslash, hcontrol⟩ := isPlain_iff.mp hc
    rw [readStringBody, if_neg hquote, if_neg hslash, if_neg (Nat.not_lt.mpr hcontrol), ih hfuel]
    cases text? ps <;> rfl
  | case3 letter c hletter ps ih => exact readStringBody_escape (readEscape_short hletter _) (ih hfuel)
  | case4 digits n hn hhigh digits' low hlow ps hpair ih =>
    refine readStringBody_escape ?_ (ih (Nat.lt_of_succ_lt hfuel))
    rw [readEscape_unit hn]
    simp [readEscapedUnit, hhigh, hex4?_append hlow, hpair]
  | case5 digits n hn hhigh digits' low hlow ps hpair =>
    refine readStringBody_refused ?_ fuel
    rw [readEscape_unit hn]
    simp [readEscapedUnit, hhigh, hex4?_append hlow, hpair]
  | case6 digits n hn ps hhigh hlone =>
    exact readStringBody_refused ((readEscape_unit hn _).trans (readEscapedUnit_high hhigh hlone)) fuel
  | case7 digits n hn ps hhigh hlow =>
    refine readStringBody_refused ?_ fuel
    rw [readEscape_unit hn]
    simp [readEscapedUnit, hhigh, hlow]
  | case8 digits n hn ps hhigh hlow ih =>
    refine readStringBody_escape ?_ (ih hfuel)
    rw [readEscape_unit hn]
    simp [readEscapedUnit, hhigh, hlow]

theorem length_le_chars (ps : List Piece) : ps.length ≤ (ps.flatMap Piece.chars).length := by
  induction ps with
  | nil => simp
  | cons p ps ih =>
    have hpiece : 1 ≤ p.chars.length := by cases p <;> simp [Piece.chars]
    simp only [List.length_cons, List.flatMap_cons, List.length_append]
    omega

theorem readString_quoted (ps : List Piece) (rest : List Char) :
    readString (quoted ps ++ rest) = (string? ps).map fun s => (s, rest) := by
  have hlength := length_le_chars ps
  simp only [quoted, readString, List.cons_append, List.append_assoc, List.nil_append]
  rw [readStringBody_chars, string?]
  · cases text? ps <;> rfl
  · simp only [List.length_append]
    omega

/-! ## Scalars -/

theorem Number.exists_head_chars (n : Number) : ∃ c cs, n.chars = c :: cs ∧ (c = '-' ∨ c.isDigit = true) := by
  obtain ⟨d, ds, hd, hdigit⟩ := n.whole.exists_cons
  cases hnegative : n.negative with
  | true => exact ⟨'-', _, by simp [chars, hnegative, signChars]; rfl, .inl rfl⟩
  | false => exact ⟨d, _, by simp [chars, hnegative, signChars, hd]; rfl, .inr hdigit⟩

/-- What a number does not begin with. -/
theorem not_mem_of_head {c : Char} {others : List Char} (hc : c = '-' ∨ c.isDigit = true)
    (h : ∀ d ∈ others, d ≠ '-' ∧ d.isDigit = false) : c ∉ others := by
  intro hmem
  obtain ⟨hminus, hdigit⟩ := h c hmem
  simp [hminus, hdigit] at hc

theorem readScalar_number (n : Number) (hrest : Ends rest) :
    readScalar (n.chars ++ rest) = n.parts.value?.map fun v => (v, rest) := by
  obtain ⟨c, cs, hchars, hc⟩ := n.exists_head_chars
  have hword : c ∉ ['n', 't', 'f', '"'] := not_mem_of_head hc (forall_mem_of_all (by decide))
  simp only [List.mem_cons, List.not_mem_nil, or_false, not_or] at hword
  rw [← Number.readNumber_chars n hrest, hchars, List.cons_append]
  simp [readScalar, hword]

theorem readScalar_chars {v : Value} (h : v.isNest = false) (depth : Nat) (hrest : Ends rest) :
    readScalar (v.chars ++ rest) = (v.json? depth).map fun j => (j, rest) := by
  cases v with
  | null => simp [Value.chars, Value.json?, readScalar]
  | bool b => cases b <;> simp [Value.chars, Value.json?, readScalar]
  | number n =>
    rw [Value.chars, Value.json?]
    exact readScalar_number n hrest
  | string ps =>
    have hquote : readScalar (quoted ps ++ rest) =
        (readString (quoted ps ++ rest)).map fun p => (.str p.1, p.2) := rfl
    rw [Value.chars, Value.json?, hquote, readString_quoted]
    cases string? ps <;> rfl
  | _ => cases h

/-! ## Arrays and objects -/

/-- What a value does not begin with. -/
theorem Value.exists_head_chars (v : Value) : ∃ c cs, v.chars = c :: cs ∧
    c ∉ [' ', '\t', '\n', '\r', ']', '\x7d'] ∧ (v.isNest = false → c ∉ ['[', '\x7b']) := by
  cases v with
  | number n =>
    obtain ⟨c, cs, hchars, hc⟩ := n.exists_head_chars
    exact ⟨c, cs, by rw [chars, hchars], not_mem_of_head hc (forall_mem_of_all (by decide)),
      fun _ => not_mem_of_head hc (forall_mem_of_all (by decide))⟩
  | bool b => cases b <;> exact ⟨_, _, by rw [chars], by decide, fun _ => by decide⟩
  | null => exact ⟨_, _, by rw [chars], by decide, fun _ => by decide⟩
  | string ps => exact ⟨_, _, by rw [chars, quoted], by decide, fun _ => by decide⟩
  | _ => exact ⟨_, _, by rw [chars], by decide, fun h => by cases h⟩

theorem skipSpace_chars (s : Space) (v : Value) (cs : List Char) :
    skipSpace (s.val ++ (v.chars ++ cs)) = v.chars ++ cs := by
  obtain ⟨c, ds, hchars, hc, -⟩ := v.exists_head_chars
  simp only [List.mem_cons, List.not_mem_nil, or_false, not_or] at hc
  rw [hchars, List.cons_append, skipSpace_append_cons s]
  simp [isSpace, hc]

section

variable {ν α : Type}

/-- The reader of values reads each to its end, whatever space comes before it. -/
def Reads (item : List Char → Option (α × List Char)) (value? : Value → Option α) : Prop :=
  ∀ (s : Space) (v : Value) (rest : List Char), Ends rest →
    item (s.val ++ (v.chars ++ rest)) = (value? v).map fun a => (a, rest)

/-- The reader of names reads each to its end. -/
def ReadsNames (name : List Char → Option (ν × List Char)) (name? : List Piece → Option ν) : Prop :=
  ∀ (ps : List Piece) (rest : List Char), name (quoted ps ++ rest) = (name? ps).map fun n => (n, rest)

variable {item : List Char → Option (α × List Char)} {value? : Value → Option α}
  {name : List Char → Option (ν × List Char)} {name? : List Piece → Option ν}

/-- A value is read up to a comma or a closing bracket and the space before it. -/
theorem Reads.before (h : Reads item value?) {c : Char} (hc : c ∈ [',', ']', '\x7d']) (s : Space) (v : Value)
    (s' : Space) (cs : List Char) : item (s.val ++ (v.chars ++ (s'.val ++ c :: cs))) =
      (value? v).map fun j => (j, s'.val ++ c :: cs) := by
  refine h s v _ (ends_append s' fun d hd => ?_)
  cases hd
  have hmarks : ∀ c ∈ [',', ']', '\x7d'], c.isDigit = false ∧ c ≠ '.' ∧ c ≠ 'e' ∧ c ≠ 'E' :=
    forall_mem_of_all (by decide)
  exact hmarks c hc

theorem readItems_chars (h : Reads item value?) {others : List (Padded Value)} {fuel : Nat}
    (hfuel : others.length < fuel) (s : Space) (v : Value) (s' : Space) :
    readItems item fuel (s.val ++ (v.chars ++ (s'.val ++ (Value.itemsChars others ++ rest)))) =
      ((⟨s, v, s'⟩ :: others).mapM fun e => value? e.inner).map fun js => (js, rest) := by
  induction others generalizing fuel s v s' with
    (obtain ⟨fuel, rfl⟩ := Nat.exists_eq_add_one_of_ne_zero (Nat.ne_zero_of_lt hfuel)
     rw [mapM_cons_eq])
  | nil =>
    rw [Value.itemsChars, List.singleton_append, readItems, h.before (by decide)]
    cases value? v with
    | none => rfl
    | some j => simp [skipSpace_append_cons s' (by decide : isSpace ']' = false)]
  | cons e es ih =>
    simp only [Value.itemsChars, List.cons_append, List.append_assoc]
    rw [readItems, h.before (by decide)]
    cases value? v with
    | none => rfl
    | some j =>
      simp only [Option.map_some, Option.bind_some, skipSpace_append_cons s' (by decide : isSpace ',' = false),
        ih (Nat.lt_of_succ_lt_succ hfuel)]
      cases (e :: es).mapM fun e => value? e.inner <;> rfl

theorem readField_chars (hname : ReadsNames name name?) (h : Reads item value?) {c : Char}
    (hc : c ∈ [',', ']', '\x7d']) (n : Padded (List Piece)) (s : Space) (v : Value) (s' : Space)
    (cs : List Char) :
    readField name item (nameChars n ++ (s.val ++ (v.chars ++ (s'.val ++ c :: cs)))) =
      (Value.member? name? value? (n, ⟨s, v, s'⟩)).map fun m => (m, s'.val ++ c :: cs) := by
  have hquote : ∀ cs, skipSpace (n.before.val ++ (quoted n.inner ++ cs)) = quoted n.inner ++ cs :=
    fun cs => skipSpace_append_cons n.before (by decide) _
  simp only [readField, nameChars, List.append_assoc, hquote, hname n.inner, Value.member?]
  cases name? n.inner with
  | none => rfl
  | some _ =>
    simp only [Option.map_some, Option.bind_some, List.singleton_append,
      skipSpace_append_cons n.after (by decide : isSpace ':' = false), h.before hc]
    cases value? v <;> rfl

theorem readFields_chars (hname : ReadsNames name name?) (h : Reads item value?) {others : List Member}
    {fuel : Nat} (hfuel : others.length < fuel) (n : Padded (List Piece)) (s : Space) (v : Value) (s' : Space) :
    readFields name item fuel
        (nameChars n ++ (s.val ++ (v.chars ++ (s'.val ++ (Value.membersChars others ++ rest))))) =
      (((n, ⟨s, v, s'⟩) :: others).mapM (Value.member? name? value?)).map fun ms => (ms, rest) := by
  induction others generalizing fuel n s v s' with
    (obtain ⟨fuel, rfl⟩ := Nat.exists_eq_add_one_of_ne_zero (Nat.ne_zero_of_lt hfuel)
     rw [mapM_cons_eq])
  | nil =>
    rw [Value.membersChars, List.singleton_append, readFields, readField_chars hname h (by decide)]
    cases Value.member? name? value? (n, ⟨s, v, s'⟩) with
    | none => rfl
    | some m => simp [skipSpace_append_cons s' (by decide : isSpace '\x7d' = false)]
  | cons m ms ih =>
    simp only [Value.membersChars, List.cons_append, List.append_assoc]
    rw [readFields, readField_chars hname h (by decide)]
    cases Value.member? name? value? (n, ⟨s, v, s'⟩) with
    | none => rfl
    | some n =>
      simp only [Option.map_some, Option.bind_some, skipSpace_append_cons s' (by decide : isSpace ',' = false),
        ih (Nat.lt_of_succ_lt_succ hfuel)]
      cases (m :: ms).mapM (Value.member? name? value?) <;> rfl

theorem length_itemsChars (others : List (Padded Value)) : others.length < (Value.itemsChars others).length := by
  induction others with
  | nil => simp [Value.itemsChars]
  | cons e es ih =>
    simp only [Value.itemsChars, List.length_cons, List.length_append]
    omega

theorem length_membersChars (others : List Member) : others.length < (Value.membersChars others).length := by
  induction others with
  | nil => simp [Value.membersChars]
  | cons m ms ih =>
    simp only [Value.membersChars, List.length_cons, List.length_append]
    omega

theorem readArray_of_head? {text r : List Char} (h : skipSpace text = r) (hr : r.head? ≠ .some ']') :
    readArray item text = readItems item (r.length + 1) r := by
  subst h
  unfold readArray
  split
  · next hclosing => exact absurd (congrArg List.head? hclosing) hr
  · rfl

theorem readObject_of_head? {text r : List Char} (h : skipSpace text = r) (hr : r.head? ≠ .some '\x7d') :
    readObject name item text = readFields name item (r.length + 1) r := by
  subst h
  unfold readObject
  split
  · next hclosing => exact absurd (congrArg List.head? hclosing) hr
  · rfl

theorem readArray_chars (h : Reads item value?) (s : Space) (v : Value) (s' : Space)
    (others : List (Padded Value)) :
    readArray item (s.val ++ (v.chars ++ (s'.val ++ (Value.itemsChars others ++ rest)))) =
      ((⟨s, v, s'⟩ :: others).mapM fun e => value? e.inner).map fun js => (js, rest) := by
  have hhead : (v.chars ++ (s'.val ++ (Value.itemsChars others ++ rest))).head? ≠ .some ']' := by
    obtain ⟨c, cs, hchars, hc, -⟩ := v.exists_head_chars
    rw [hchars]
    rintro ⟨⟩
    exact hc (by decide)
  have hitems := fun fuel hfuel => @readItems_chars rest _ _ _ h others fuel hfuel .none v s'
  simp only [Space.none, List.nil_append] at hitems
  rw [readArray_of_head? (skipSpace_chars s v _) hhead, hitems]
  · simp only [mapM_cons_eq]
  · have := length_itemsChars others
    simp only [List.length_append]
    omega

theorem readObject_chars (hname : ReadsNames name name?) (h : Reads item value?) (n : Padded (List Piece))
    (s : Space) (v : Value) (s' : Space) (others : List Member) :
    readObject name item
        (nameChars n ++ (s.val ++ (v.chars ++ (s'.val ++ (Value.membersChars others ++ rest))))) =
      (((n, ⟨s, v, s'⟩) :: others).mapM (Value.member? name? value?)).map fun ms => (ms, rest) := by
  obtain ⟨before, ps, after⟩ := n
  have hskip : ∀ cs, skipSpace (nameChars ⟨before, ps, after⟩ ++ cs) = nameChars ⟨.none, ps, after⟩ ++ cs := by
    intro cs
    simp only [nameChars, quoted, List.append_assoc, List.cons_append, Space.none, List.nil_append]
    exact skipSpace_append_cons before (by decide) _
  have hfields := fun fuel hfuel =>
    @readFields_chars rest _ _ _ _ _ _ hname h others fuel hfuel ⟨.none, ps, after⟩ s v s'
  rw [readObject_of_head? (hskip _) (by simp [nameChars, quoted, Space.none]), hfields]
  · simp only [mapM_cons_eq, Value.member?]
  · have := length_membersChars others
    simp only [List.length_append]
    omega

end

/-! ## Values -/

section

variable {ν α : Type} {b : Builder ν α} {name? : List Piece → Option ν} {value? : Nat → Value → Option α}

/-- What a builder makes of the texts of scalars and names is what the functions make of the trees, and
these put arrays and objects together like the builder. -/
structure Computes (b : Builder ν α) (name? : List Piece → Option ν) (value? : Nat → Value → Option α) :
    Prop where
  scalar : ∀ {v : Value} {rest : List Char}, v.isNest = false → Ends rest → ∀ depth,
    b.scalar (v.chars ++ rest) = (value? depth v).map fun a => (a, rest)
  names : ReadsNames b.name name?
  deep : ∀ v : Value, v.isNest = true → value? 0 v = .none
  emptyArray : ∀ depth inside, value? (depth + 1) (.emptyArray inside) = .some (b.arr [])
  array : ∀ depth first others, value? (depth + 1) (.array first others) =
    ((first :: others).mapM fun e => value? depth e.inner).map b.arr
  emptyObject : ∀ depth inside, value? (depth + 1) (.emptyObject inside) = .some (b.obj [])
  object : ∀ depth first others, value? (depth + 1) (.object first others) =
    ((first :: others).mapM (Value.member? name? (value? depth))).map b.obj

theorem readValue_of_isNest (h : Computes b name? value?) (depth : Nat) (s : Space) {v : Value}
    (hv : v.isNest = false) (hrest : Ends rest) :
    b.readValue depth (s.val ++ (v.chars ++ rest)) = (value? depth v).map fun a => (a, rest) := by
  rw [← h.scalar hv hrest depth]
  obtain ⟨c, cs, hchars, -, hc⟩ := v.exists_head_chars
  have hopening := hc hv
  simp only [List.mem_cons, List.not_mem_nil, or_false, not_or] at hopening
  have hskip := skipSpace_chars s v rest
  rw [hchars, List.cons_append] at hskip ⊢
  cases depth <;> simp [Builder.readValue, hskip, hopening]

theorem readValue_bracket (depth : Nat) (s : Space) (cs : List Char) :
    b.readValue depth (s.val ++ '[' :: cs) =
      match depth with
      | 0 => .none
      | depth + 1 => (readArray (b.readValue depth) cs).map fun p => (b.arr p.1, p.2) := by
  cases depth <;> simp [Builder.readValue, skipSpace_append_cons s (by decide : isSpace '[' = false)]

theorem readValue_brace (depth : Nat) (s : Space) (cs : List Char) :
    b.readValue depth (s.val ++ '\x7b' :: cs) =
      match depth with
      | 0 => .none
      | depth + 1 => (readObject b.name (b.readValue depth) cs).map fun p => (b.obj p.1, p.2) := by
  cases depth <;> simp [Builder.readValue, skipSpace_append_cons s (by decide : isSpace '\x7b' = false)]

/-- **The reader of a depth reads the texts of the grammar**, each to its end, and says what they are
worth. -/
theorem reads_readValue (h : Computes b name? value?) (depth : Nat) : Reads (b.readValue depth) (value? depth) := by
  intro s v rest hrest
  induction depth generalizing s v rest with
  | zero =>
    cases v with
    | emptyArray | array =>
      rw [h.deep _ rfl]
      simp only [Value.chars, List.cons_append, readValue_bracket, Option.map_none]
    | emptyObject | object =>
      rw [h.deep _ rfl]
      simp only [Value.chars, List.cons_append, readValue_brace, Option.map_none]
    | _ => exact readValue_of_isNest h 0 s rfl hrest
  | succ depth ih =>
    cases v with
    | emptyArray inside =>
      simp only [Value.chars, List.cons_append, List.append_assoc, List.nil_append, readValue_bracket,
        readArray, skipSpace_append_cons inside (by decide : isSpace ']' = false), h.emptyArray]
      rfl
    | array first others =>
      simp only [Value.chars, List.cons_append, List.append_assoc, readValue_bracket,
        readArray_chars ih first.before first.inner first.after others, h.array, Option.map_map]
      rfl
    | emptyObject inside =>
      simp only [Value.chars, List.cons_append, List.append_assoc, List.nil_append, readValue_brace,
        readObject, skipSpace_append_cons inside (by decide : isSpace '\x7d' = false), h.emptyObject]
      rfl
    | object first others =>
      obtain ⟨name, before, v, after⟩ := first
      simp only [Value.chars, List.cons_append, List.append_assoc, readValue_brace,
        readObject_chars h.names ih name before v after others, h.object, Option.map_map]
      rfl
    | _ => exact readValue_of_isNest h _ s rfl hrest

/-- A whole text is worth what its tree is. -/
theorem read?_chars (h : Computes b name? value?) (depth : Nat) (d : Document) :
    b.read? depth d.chars = value? depth d.inner := by
  have hspace : skipSpace d.after.val = [] := by
    have := skipSpace_append d.after []
    rwa [List.append_nil] at this
  have hends : Ends d.after.val := by simpa using ends_append d.after ends_nil
  have hread := reads_readValue h depth d.before d.inner d.after.val hends
  rw [Builder.read?, Document.chars, hread]
  cases value? depth d.inner with
  | none => rfl
  | some v => simp [hspace]

end

theorem computes_json? : Computes values string? Value.json? where
  scalar hv hrest depth := readScalar_chars hv depth hrest
  names := readString_quoted
  deep v h := by cases v <;> first | rfl | cases h
  emptyArray _ _ := rfl
  array _ _ _ := rfl
  emptyObject _ _ := rfl
  object _ _ _ := rfl

theorem ofChars?_chars (d : Document) : Json.ofChars? d.chars = d.inner.json? maxDepth :=
  read?_chars computes_json? maxDepth d

theorem parse?_text (d : Document) : Json.parse? d.text = (d.inner.json? Json.maxDepth).map Json.canonical := by
  rw [Json.parse?, Json.ofText?, Document.text, String.toList_ofList, ofChars?_chars]

end Grammar
end MarketSearch
