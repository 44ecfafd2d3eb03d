/-
The reader reads nothing but texts of the grammar: what it has read is the
characters of a tree, and what it found is what the tree is worth
(`recognizes_readValue`).  With `reads_readValue`, the texts that are read are
the texts of the grammar that nest within the depth and are readable
(`isSome_ofChars?_iff`).

As there, each token comes first, and arrays and objects are taken for any
builder and any reader of values.
-/
import MarketSearch.Proofs.Reading

namespace MarketSearch
namespace Grammar

open Json

variable {cs r : List Char}

/-! ## Space and numbers -/

/-- Space after space. -/
def Space.append (s t : Space) : Space :=
  ⟨s.val ++ t.val, by rw [List.all_append, s.property, t.property]; rfl⟩

theorem exists_space (cs : List Char) : ∃ s : Space, cs = s.val ++ skipSpace cs :=
  ⟨⟨cs.takeWhile isSpace, List.all_takeWhile⟩, List.takeWhile_append_dropWhile.symm⟩

theorem exists_digits (h : (splitDigits cs).1 ≠ []) :
    ∃ digits : Digits, digits.val = (splitDigits cs).1 ∧ cs = digits.val ++ (splitDigits cs).2 := by
  have hsplit : splitDigits cs = (cs.takeWhile Char.isDigit, cs.dropWhile Char.isDigit) :=
    List.span_eq_takeWhile_dropWhile _ cs
  rw [hsplit] at h ⊢
  exact ⟨⟨_, h, List.all_takeWhile⟩, rfl, List.takeWhile_append_dropWhile.symm⟩

namespace Number

theorem readFraction_cons (cs : List Char) :
    readFraction ('.' :: cs) = if (splitDigits cs).1.isEmpty then .none
      else .some (.some (splitDigits cs).1, (splitDigits cs).2) := rfl

theorem exists_of_readFraction {f : Option (List Char)} (h : readFraction cs = .some (f, r)) :
    ∃ f' : Option Digits, f'.map (·.val) = f ∧ cs = fractionChars f' ++ r := by
  by_cases hpoint : ∃ cs', cs = '.' :: cs'
  · obtain ⟨cs, rfl⟩ := hpoint
    rw [readFraction_cons] at h
    split at h
    · cases h
    · next hne =>
      obtain ⟨digits, hdigits, hcs⟩ := exists_digits (by simpa using hne)
      obtain ⟨rfl, rfl⟩ := Prod.mk.inj (Option.some.inj h)
      refine ⟨.some digits, by rw [Option.map_some, hdigits], ?_⟩
      rw [fractionChars, List.cons_append, ← hcs]
  · unfold readFraction at h
    split at h
    · exact absurd ⟨_, rfl⟩ hpoint
    · cases h
      exact ⟨.none, rfl, rfl⟩

/-- After its letter, an exponent has a sign or none, and digits. -/
theorem readExponent_cons {mark : Char} (hmark : mark = 'e' ∨ mark = 'E') (cs : List Char) :
    ∃ (sign : Option Char) (cs' : List Char), (∀ c ∈ sign, c = '+' ∨ c = '-') ∧ cs = sign.toList ++ cs' ∧
      readExponent (mark :: cs) = if (splitDigits cs').1.isEmpty then .none
        else .some (.some (decide (sign = .some '-'), (splitDigits cs').1), (splitDigits cs').2) := by
  rcases cs with _ | ⟨c, cs⟩
  · exact ⟨.none, [], by simp, rfl, by simp [readExponent, hmark]⟩
  · by_cases hminus : c = '-'
    · subst hminus
      exact ⟨.some '-', cs, by simp, rfl, by simp [readExponent, hmark]⟩
    · by_cases hplus : c = '+'
      · subst hplus
        exact ⟨.some '+', cs, by simp, rfl, by simp [readExponent, hmark]⟩
      · exact ⟨.none, c :: cs, by simp, rfl, by simp [readExponent, hmark, hminus, hplus]⟩

theorem exists_of_readExponent {e : Option (Bool × List Char)} (h : readExponent cs = .some (e, r)) :
    ∃ e' : Option Exponent, e'.map (fun e => (decide (e.sign = .some '-'), e.digits.val)) = e ∧
      cs = exponentChars e' ++ r := by
  rcases cs with _ | ⟨mark, cs⟩
  · cases h
    exact ⟨.none, rfl, rfl⟩
  · by_cases hmark : mark = 'e' ∨ mark = 'E'
    · obtain ⟨sign, cs, hsign, rfl, hread⟩ := readExponent_cons hmark cs
      rw [hread] at h
      split at h
      · cases h
      · next hne =>
        obtain ⟨digits, hdigits, hcs⟩ := exists_digits (by simpa using hne)
        obtain ⟨rfl, rfl⟩ := Prod.mk.inj (Option.some.inj h)
        refine ⟨.some ⟨mark, sign, digits, hmark, hsign⟩, by rw [Option.map_some, hdigits], ?_⟩
        simp only [exponentChars, Exponent.chars, List.cons_append, List.append_assoc, ← hcs]
    · simp only [readExponent, hmark, if_false] at h
      cases h
      exact ⟨.none, rfl, rfl⟩

/-- After its sign, a number has digits, of which a leading zero stands alone, and the rest. -/
theorem readNumeric_eq (negative : Bool) (cs : List Char) (hcs : negative = false → cs.head? ≠ .some '-') :
    readNumeric (signChars negative ++ cs) =
      if (splitDigits cs).1.isEmpty ∨ ((splitDigits cs).1.head? = .some '0' ∧ 1 < (splitDigits cs).1.length) then
        .none
      else (readFraction (splitDigits cs).2).bind fun f =>
        (readExponent f.2).map fun e => (⟨negative, (splitDigits cs).1, f.1, e.1⟩, e.2) := by
  cases negative with
  | true => rfl
  | false =>
    cases cs with
    | nil => rfl
    | cons c cs =>
      have hminus : c ≠ '-' := by simpa using hcs rfl
      simp [signChars, readNumeric, hminus]

theorem exists_of_readNumeric {t : Numeric} (h : readNumeric cs = .some (t, r)) :
    ∃ n : Number, n.parts = t ∧ cs = n.chars ++ r := by
  obtain ⟨negative, cs, hcs, rfl⟩ : ∃ (negative : Bool) (cs' : List Char),
      (negative = false → cs'.head? ≠ .some '-') ∧ cs = signChars negative ++ cs' := by
    by_cases hminus : ∃ cs', cs = '-' :: cs'
    · obtain ⟨cs', rfl⟩ := hminus
      exact ⟨true, cs', by simp, rfl⟩
    · refine ⟨false, cs, fun _ hhead => hminus ?_, rfl⟩
      obtain ⟨cs', rfl⟩ := List.head?_eq_some_iff.mp hhead
      exact ⟨cs', rfl⟩
  rw [readNumeric_eq negative cs hcs] at h
  split at h
  · cases h
  · next hwhole =>
    rw [not_or, not_and] at hwhole
    obtain ⟨⟨f, r'⟩, hf, h⟩ := Option.bind_eq_some_iff.mp h
    obtain ⟨⟨e, r''⟩, he, h⟩ := Option.map_eq_some_iff.mp h
    obtain ⟨rfl, rfl⟩ := Prod.mk.inj h
    obtain ⟨whole, hdigits, hsplit⟩ := @exists_digits cs (by simpa using hwhole.1)
    obtain ⟨fraction, rfl, hfraction⟩ := exists_of_readFraction hf
    obtain ⟨exponent, rfl, hexponent⟩ := @exists_of_readExponent r' _ _ he
    have hlone : whole.val.head? = .some '0' → whole.val = ['0'] := by
      intro hzero
      have hlength := hwhole.2 (hdigits ▸ hzero)
      obtain ⟨ds, hds⟩ := List.head?_eq_some_iff.mp hzero
      rw [← hdigits, hds, List.length_cons] at hlength
      rw [hds, List.length_eq_zero_iff.mp (by omega : ds.length = 0)]
    refine ⟨⟨negative, whole, fraction, exponent, hlone⟩, by rw [parts, hdigits], ?_⟩
    conv_lhs => rw [hsplit, hfraction, hexponent]
    simp only [chars, List.append_assoc]

end Number

/-! ## Strings -/

theorem exists_of_hex4? {n : Nat} (h : hex4? cs = .some (n, r)) :
    ∃ digits, IsHex4 digits n ∧ cs = digits ++ r := by
  unfold hex4? at h
  split at h
  · next a b c d cs =>
    obtain ⟨m, hm, heq⟩ := Option.map_eq_some_iff.mp h
    obtain ⟨rfl, rfl⟩ := Prod.mk.inj heq
    exact ⟨[a, b, c, d], ⟨rfl, hm⟩, rfl⟩
  · cases h

/-- Some pieces that stand for one character, whatever follows. -/
def StandFor (ps : List Piece) (c : Char) : Prop := ∀ qs, text? (ps ++ qs) = (text? qs).map (c :: ·)

theorem exists_of_readEscapedUnit {digits : List Char} {n : Nat} (hn : IsHex4 digits n) {c : Char}
    (h : readEscapedUnit n cs = .some (c, r)) :
    ∃ ps : List Piece, '\\' :: 'u' :: (digits ++ cs) = ps.flatMap Piece.chars ++ r ∧ StandFor ps c := by
  unfold readEscapedUnit at h
  split at h
  · next hhigh =>
    split at h
    · next cs =>
      obtain ⟨⟨low, r'⟩, hlow, hrest⟩ := Option.bind_eq_some_iff.mp h
      obtain ⟨digits', hdigits', rfl⟩ := exists_of_hex4? hlow
      cases hpair : isLowSurrogate low with
      | false => simp [hpair] at hrest
      | true =>
        simp only [hpair, if_true, Option.some.injEq, Prod.mk.injEq] at hrest
        obtain ⟨rfl, rfl⟩ := hrest
        refine ⟨[.unit digits n hn, .unit digits' low hdigits'], by simp [Piece.chars], fun qs => ?_⟩
        simp [text?, hhigh, hpair]
    · cases h
  · next hhigh =>
    split at h
    · cases h
    · next hlow =>
      cases h
      refine ⟨[.unit digits n hn], by simp [Piece.chars], fun qs => ?_⟩
      rw [List.singleton_append, text?.eq_def]
      simp [hhigh, hlow]

theorem exists_of_readEscape {c : Char} (h : readEscape cs = .some (c, r)) :
    ∃ ps : List Piece, '\\' :: cs = ps.flatMap Piece.chars ++ r ∧ StandFor ps c := by
  unfold readEscape at h
  split at h
  any_goals
    cases h
    exact ⟨[.short _ _ (by decide)], rfl, fun _ => rfl⟩
  · next cs =>
    obtain ⟨⟨n, r'⟩, hn, hunit⟩ := Option.bind_eq_some_iff.mp h
    obtain ⟨digits, hdigits, rfl⟩ := exists_of_hex4? hn
    exact exists_of_readEscapedUnit hdigits hunit
  · cases h

/-- What has been read of a string is pieces up to its closing quote. -/
theorem exists_of_readStringBody {fuel : Nat} {ds : List Char} (h : readStringBody fuel cs = .some (ds, r)) :
    ∃ ps : List Piece, cs = ps.flatMap Piece.chars ++ '"' :: r ∧ text? ps = .some ds := by
  induction fuel generalizing cs ds with
  | zero => cases h
  | succ fuel ih =>
    cases cs with
    | nil => cases h
    | cons c cs =>
      rw [readStringBody] at h
      split at h
      · next hquote =>
        cases h
        exact ⟨[], by rw [hquote]; rfl, rfl⟩
      · next hquote =>
        split at h
        · next hslash =>
          obtain ⟨⟨d, r'⟩, hescape, h⟩ := Option.bind_eq_some_iff.mp h
          obtain ⟨⟨ds', r''⟩, hbody, heq⟩ := Option.map_eq_some_iff.mp h
          obtain ⟨rfl, rfl⟩ := Prod.mk.inj heq
          obtain ⟨ps, hps, hstand⟩ := exists_of_readEscape hescape
          obtain ⟨qs, rfl, hqs⟩ := ih hbody
          exact ⟨ps ++ qs, by rw [hslash, hps]; simp, by rw [hstand, hqs]; rfl⟩
        · next hslash =>
          split at h
          · cases h
          · next hcontrol =>
            obtain ⟨⟨ds', r''⟩, hbody, heq⟩ := Option.map_eq_some_iff.mp h
            obtain ⟨rfl, rfl⟩ := Prod.mk.inj heq
            obtain ⟨qs, rfl, hqs⟩ := ih hbody
            have hplain : isPlain c = true := isPlain_iff.mpr ⟨hquote, hslash, Nat.not_lt.mp hcontrol⟩
            exact ⟨.plain c hplain :: qs, rfl, by rw [text?, hqs]; rfl⟩

theorem exists_of_readString {s : String} (h : readString cs = .some (s, r)) :
    ∃ ps : List Piece, cs = quoted ps ++ r ∧ string? ps = .some s := by
  unfold readString at h
  split at h
  · next cs =>
    obtain ⟨⟨ds, r'⟩, hbody, heq⟩ := Option.map_eq_some_iff.mp h
    obtain ⟨rfl, rfl⟩ := Prod.mk.inj heq
    obtain ⟨ps, rfl, hps⟩ := exists_of_readStringBody hbody
    exact ⟨ps, by simp [quoted], by rw [string?, hps]; rfl⟩
  · cases h

/-! ## Values -/

theorem exists_of_readScalar {j : Json} (h : readScalar cs = .some (j, r)) (depth : Nat) :
    ∃ v : Value, cs = v.chars ++ r ∧ v.json? depth = .some j := by
  unfold readScalar at h
  split at h
  · cases h
    exact ⟨.null, by rw [Value.chars]; rfl, by rw [Value.json?]⟩
  · cases h
    exact ⟨.bool true, by rw [Value.chars]; rfl, by rw [Value.json?]⟩
  · cases h
    exact ⟨.bool false, by rw [Value.chars]; rfl, by rw [Value.json?]⟩
  · obtain ⟨⟨s, r'⟩, hs, heq⟩ := Option.map_eq_some_iff.mp h
    obtain ⟨rfl, rfl⟩ := Prod.mk.inj heq
    obtain ⟨ps, hps, htext⟩ := exists_of_readString hs
    exact ⟨.string ps, by rw [Value.chars, hps], by rw [Value.json?, htext]; rfl⟩
  · obtain ⟨⟨t, r'⟩, ht, h⟩ := Option.bind_eq_some_iff.mp h
    obtain ⟨j', hj, heq⟩ := Option.map_eq_some_iff.mp h
    obtain ⟨rfl, rfl⟩ := Prod.mk.inj heq
    obtain ⟨n, rfl, rfl⟩ := Number.exists_of_readNumeric ht
    exact ⟨.number n, by rw [Value.chars], by rw [Value.json?, hj]⟩

section

variable {ν α : Type}

/-- What the reader of values has read is space and a value. -/
def Recognizes (item : List Char → Option (α × List Char)) (value? : Value → Option α) : Prop :=
  ∀ cs a r, item cs = .some (a, r) →
    ∃ (s : Space) (v : Value), cs = s.val ++ (v.chars ++ r) ∧ value? v = .some a

/-- What the reader of names has read is a string. -/
def RecognizesNames (name : List Char → Option (ν × List Char)) (name? : List Piece → Option ν) : Prop :=
  ∀ cs n r, name cs = .some (n, r) → ∃ ps : List Piece, cs = quoted ps ++ r ∧ name? ps = .some n

variable {item : List Char → Option (α × List Char)} {value? : Value → Option α}
  {name : List Char → Option (ν × List Char)} {name? : List Piece → Option ν}

theorem exists_of_readItems (h : Recognizes item value?) {fuel : Nat} {js : List α}
    (hread : readItems item fuel cs = .some (js, r)) :
    ∃ (s : Space) (v : Value) (s' : Space) (others : List (Padded Value)),
      cs = s.val ++ (v.chars ++ (s'.val ++ (Value.itemsChars others ++ r))) ∧
      ((⟨s, v, s'⟩ :: others).mapM fun e => value? e.inner) = .some js := by
  induction fuel generalizing cs js with
  | zero => cases hread
  | succ fuel ih =>
    obtain ⟨⟨j, r'⟩, hitem, hrest⟩ := Option.bind_eq_some_iff.mp hread
    obtain ⟨s, v, rfl, hv⟩ := h _ _ _ hitem
    obtain ⟨s', hs'⟩ := exists_space r'
    dsimp only at hrest
    split at hrest
    · next hclosing =>
      cases hrest
      refine ⟨s, v, s', [], ?_, by rw [mapM_cons_eq, hv]; rfl⟩
      rw [Value.itemsChars, List.singleton_append, ← hclosing, ← hs']
    · next r'' hcomma =>
      obtain ⟨⟨js, r'''⟩, hitems, heq⟩ := Option.map_eq_some_iff.mp hrest
      obtain ⟨rfl, rfl⟩ := Prod.mk.inj heq
      obtain ⟨t, w, t', others, rfl, hjs⟩ := ih hitems
      refine ⟨s, v, s', ⟨t, w, t'⟩ :: others, ?_, by rw [mapM_cons_eq, hv, hjs]; rfl⟩
      simp only [Value.itemsChars, List.cons_append, List.append_assoc, ← hcomma, ← hs']
    · cases hrest

theorem exists_of_readField (hname : RecognizesNames name name?) (h : Recognizes item value?) {m : ν × α}
    (hread : readField name item cs = .some (m, r)) :
    ∃ (n : Padded (List Piece)) (s : Space) (v : Value),
      cs = nameChars n ++ (s.val ++ (v.chars ++ r)) ∧
      ∀ s', Value.member? name? value? (n, ⟨s, v, s'⟩) = .some m := by
  obtain ⟨⟨n, r'⟩, hn, hrest⟩ := Option.bind_eq_some_iff.mp hread
  obtain ⟨ps, hps, hworth⟩ := hname _ _ _ hn
  obtain ⟨before, hbefore⟩ := exists_space cs
  obtain ⟨after, hafter⟩ := exists_space r'
  dsimp only at hrest
  split at hrest
  · next r'' hcolon =>
    obtain ⟨⟨j, r'''⟩, hitem, heq⟩ := Option.map_eq_some_iff.mp hrest
    obtain ⟨rfl, rfl⟩ := Prod.mk.inj heq
    obtain ⟨s, v, rfl, hv⟩ := h _ _ _ hitem
    refine ⟨⟨before, ps, after⟩, s, v, ?_, fun s' => by rw [Value.member?, hworth, Option.bind_some, hv]; rfl⟩
    simp only [nameChars, List.append_assoc, List.singleton_append, ← hcolon, ← hafter, ← hps, ← hbefore]
  · cases hrest

theorem exists_of_readFields (hname : RecognizesNames name name?) (h : Recognizes item value?) {fuel : Nat}
    {ms : List (ν × α)} (hread : readFields name item fuel cs = .some (ms, r)) :
    ∃ (n : Padded (List Piece)) (s : Space) (v : Value) (s' : Space) (others : List Member),
      cs = nameChars n ++ (s.val ++ (v.chars ++ (s'.val ++ (Value.membersChars others ++ r)))) ∧
      ((n, ⟨s, v, s'⟩) :: others).mapM (Value.member? name? value?) = .some ms := by
  induction fuel generalizing cs ms with
  | zero => cases hread
  | succ fuel ih =>
    obtain ⟨⟨m, r'⟩, hfield, hrest⟩ := Option.bind_eq_some_iff.mp hread
    obtain ⟨n, s, v, rfl, hm⟩ := exists_of_readField hname h hfield
    obtain ⟨s', hs'⟩ := exists_space r'
    dsimp only at hrest
    split at hrest
    · next hclosing =>
      cases hrest
      refine ⟨n, s, v, s', [], ?_, by rw [mapM_cons_eq, hm]; rfl⟩
      rw [Value.membersChars, List.singleton_append, ← hclosing, ← hs']
    · next r'' hcomma =>
      obtain ⟨⟨ms, r'''⟩, hfields, heq⟩ := Option.map_eq_some_iff.mp hrest
      obtain ⟨rfl, rfl⟩ := Prod.mk.inj heq
      obtain ⟨n', t, w, t', others, rfl, hms⟩ := ih hfields
      refine ⟨n, s, v, s', (n', ⟨t, w, t'⟩) :: others, ?_, by rw [mapM_cons_eq, hm, hms]; rfl⟩
      simp only [Value.membersChars, List.cons_append, List.append_assoc, ← hcomma, ← hs']
    · cases hrest

theorem exists_of_readArray (h : Recognizes item value?) {js : List α}
    (hread : readArray item cs = .some (js, r)) :
    (∃ inside : Space, '[' :: cs = (Value.emptyArray inside).chars ++ r ∧ js = []) ∨
    ∃ (first : Padded Value) (others : List (Padded Value)),
      '[' :: cs = (Value.array first others).chars ++ r ∧
      ((first :: others).mapM fun e => value? e.inner) = .some js := by
  obtain ⟨inside, hinside⟩ := exists_space cs
  unfold readArray at hread
  split at hread
  · next hclosing =>
    cases hread
    refine .inl ⟨inside, ?_, rfl⟩
    simp only [Value.chars, List.cons_append, List.append_assoc, List.nil_append, ← hclosing, ← hinside]
  · obtain ⟨s, v, s', others, hcs, hjs⟩ := exists_of_readItems h hread
    refine .inr ⟨⟨inside.append s, v, s'⟩, others, ?_, ?_⟩
    · conv_lhs => rw [hinside, hcs]
      simp only [Value.chars, Space.append, List.cons_append, List.append_assoc]
    · rwa [mapM_cons_eq] at hjs ⊢

theorem exists_of_readObject (hname : RecognizesNames name name?) (h : Recognizes item value?)
    {ms : List (ν × α)} (hread : readObject name item cs = .some (ms, r)) :
    (∃ inside : Space, '\x7b' :: cs = (Value.emptyObject inside).chars ++ r ∧ ms = []) ∨
    ∃ (first : Member) (others : List Member), '\x7b' :: cs = (Value.object first others).chars ++ r ∧
      (first :: others).mapM (Value.member? name? value?) = .some ms := by
  obtain ⟨inside, hinside⟩ := exists_space cs
  unfold readObject at hread
  split at hread
  · next hclosing =>
    cases hread
    refine .inl ⟨inside, ?_, rfl⟩
    simp only [Value.chars, List.cons_append, List.append_assoc, List.nil_append, ← hclosing, ← hinside]
  · obtain ⟨n, s, v, s', others, hcs, hms⟩ := exists_of_readFields hname h hread
    refine .inr ⟨(⟨inside.append n.before, n.inner, n.after⟩, ⟨s, v, s'⟩), others, ?_, ?_⟩
    · conv_lhs => rw [hinside, hcs]
      simp only [Value.chars, nameChars, Space.append, List.cons_append, List.append_assoc]
    · rwa [mapM_cons_eq] at hms ⊢

end

section

variable {ν α : Type} {b : Builder ν α} {name? : List Piece → Option ν} {value? : Nat → Value → Option α}

/-- What a builder has read as a scalar or a name is one, and is worth what was made of it. -/
structure Inverts (b : Builder ν α) (name? : List Piece → Option ν) (value? : Nat → Value → Option α) :
    Prop where
  scalar : ∀ {cs r : List Char} {a : α}, b.scalar cs = .some (a, r) → ∀ depth,
    ∃ v : Value, cs = v.chars ++ r ∧ value? depth v = .some a
  names : RecognizesNames b.name name?

/-- **What the reader of a depth has read is space and a value**, and it says what the value is worth. -/
theorem recognizes_readValue (h : Computes b name? value?) (hinv : Inverts b name? value?) (depth : Nat) :
    Recognizes (b.readValue depth) (value? depth) := by
  intro cs j r hread
  obtain ⟨s, hs⟩ := exists_space cs
  induction depth generalizing cs j r s with
  | zero =>
    unfold Builder.readValue at hread
    split at hread
    · cases hread
    · cases hread
    · obtain ⟨v, hv, hj⟩ := hinv.scalar hread 0
      exact ⟨s, v, by rw [← hv, ← hs], hj⟩
  | succ depth ih =>
    have hitem : Recognizes (b.readValue depth) (value? depth) := fun cs j r hread =>
      (exists_space cs).elim fun s hs => ih cs j r hread s hs
    unfold Builder.readValue at hread
    split at hread
    · next hopening =>
      obtain ⟨⟨js, r'⟩, harray, heq⟩ := Option.map_eq_some_iff.mp hread
      obtain ⟨rfl, rfl⟩ := Prod.mk.inj heq
      rcases exists_of_readArray hitem harray with ⟨inside, hv, rfl⟩ | ⟨first, others, hv, hj⟩
      · exact ⟨s, .emptyArray inside, by rw [← hv, ← hopening, ← hs], h.emptyArray depth inside⟩
      · exact ⟨s, .array first others, by rw [← hv, ← hopening, ← hs], by rw [h.array, hj]; rfl⟩
    · next hopening =>
      obtain ⟨⟨ms, r'⟩, hobject, heq⟩ := Option.map_eq_some_iff.mp hread
      obtain ⟨rfl, rfl⟩ := Prod.mk.inj heq
      rcases exists_of_readObject hinv.names hitem hobject with ⟨inside, hv, rfl⟩ | ⟨first, others, hv, hj⟩
      · exact ⟨s, .emptyObject inside, by rw [← hv, ← hopening, ← hs], h.emptyObject depth inside⟩
      · exact ⟨s, .object first others, by rw [← hv, ← hopening, ← hs], by rw [h.object, hj]; rfl⟩
    · obtain ⟨v, hv, hj⟩ := hinv.scalar hread (depth + 1)
      exact ⟨s, v, by rw [← hv, ← hs], hj⟩

/-- A text is read exactly when it is a text of the grammar, and as what its tree is worth. -/
theorem read?_eq_some_iff (h : Computes b name? value?) (hinv : Inverts b name? value?) {depth : Nat} {a : α} :
    b.read? depth cs = .some a ↔ ∃ d : Document, d.chars = cs ∧ value? depth d.inner = .some a := by
  constructor
  · intro hread
    unfold Builder.read? at hread
    split at hread
    · next v r hvalue =>
      split at hread
      · next hempty =>
        cases hread
        obtain ⟨before, v, rfl, hv⟩ := recognizes_readValue h hinv depth _ _ _ hvalue
        obtain ⟨after, hafter⟩ := exists_space r
        rw [List.isEmpty_iff.mp hempty, List.append_nil] at hafter
        exact ⟨⟨before, v, after⟩, by rw [Document.chars, ← hafter], hv⟩
      · cases hread
    · cases hread
  · rintro ⟨d, rfl, hd⟩
    rw [read?_chars h, hd]

end

theorem inverts_json? : Inverts values string? Value.json? where
  scalar h depth := exists_of_readScalar h depth
  names _ _ _ h := exists_of_readString h

/-- A text is read as a value exactly when it is a text of the grammar that is worth the value. -/
theorem ofChars?_eq_some_iff {j : Json} : Json.ofChars? cs = .some j ↔
    ∃ d : Document, d.chars = cs ∧ d.inner.json? maxDepth = .some j :=
  read?_eq_some_iff computes_json? inverts_json?

/-- **The texts that are read** are the texts of the grammar that nest within the depth and are
readable. -/
theorem isSome_ofChars?_iff : (Json.ofChars? cs).isSome = true ↔
    ∃ d : Document, d.chars = cs ∧ d.inner.NestsWithin maxDepth ∧ d.inner.IsReadable := by
  simp only [Option.isSome_iff_exists, ofChars?_eq_some_iff, ← Value.isSome_json?_iff]
  exact ⟨fun ⟨j, d, hd, hj⟩ => ⟨d, hd, j, hj⟩, fun ⟨d, hd, j, hj⟩ => ⟨j, d, hd, hj⟩⟩

end Grammar
end MarketSearch
