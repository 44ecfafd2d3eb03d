/-
What is seen of the texts of the grammar.

The bytes of a text are signs of a text again: one whose strings have the signs
of bytes where those of the first have characters (`Value.recoded`).  So they
have the outline of its tree, and everything in the outline is worth what it is
in the tree (`json?_outline`).  A record whose fields are all looked at as
values is then seen as the value of its text (`View.ofBytes?_record`), and a field
that is not known makes no difference to any record (`View.ofBytes?_insert`).
-/
import MarketSearch.Proofs.Numeral
import MarketSearch.Proofs.Outline

namespace MarketSearch
namespace Grammar

open Json Json.Outline

variable {c : Char} {cs ds : List Char}

/-! ## Signs of texts -/

/-- The signs of the bytes of a text. -/
def coded (cs : List Char) : List Char := signs (Utf8.encode cs)

theorem coded_nil : coded [] = [] := rfl

theorem coded_append (cs ds : List Char) : coded (cs ++ ds) = coded cs ++ coded ds := by
  simp [coded, signs, Utf8.encode]

theorem coded_cons (h : c.toNat < 0x80) (cs : List Char) : coded (c :: cs) = c :: coded cs := by
  have hb : (UInt8.ofNat c.toNat).toNat = c.toNat := Utf8.toNat_ofNat (by omega)
  simp [coded, signs, Utf8.encode, Utf8.encodeChar, h, hb, Char.ofNat_toNat]

theorem coded_of_ascii (h : ∀ c ∈ cs, c.toNat < 0x80) : coded cs = cs := by
  induction cs with
  | nil => rfl
  | cons c cs ih =>
    rw [coded_cons (h c List.mem_cons_self), ih fun d hd => h d (List.mem_cons_of_mem _ hd)]

theorem coded_of_all {p : Char → Bool} (hp : ∀ c, p c = true → c.toNat < 0x80) (h : cs.all p = true) :
    coded cs = cs :=
  coded_of_ascii fun c hc => hp c (List.all_eq_true.mp h c hc)

theorem toNat_lt_of_isSpace (c : Char) (h : isSpace c = true) : c.toNat < 0x80 := by
  simp only [isSpace, Bool.or_eq_true, beq_iff_eq] at h
  rcases h with ((rfl | rfl) | rfl) | rfl <;> decide

theorem toNat_lt_of_isDigit (c : Char) (h : c.isDigit = true) : c.toNat < 0x80 := by
  have hle : c.toNat ≤ '9'.toNat := (Char.isDigit_iff_toNat.mp h).2
  exact Nat.lt_of_le_of_lt hle (by decide)

theorem coded_space (s : Space) : coded s.val = s.val := coded_of_all toNat_lt_of_isSpace s.property

theorem coded_digits (ds : Digits) : coded ds.val = ds.val := coded_of_all toNat_lt_of_isDigit ds.property.2

theorem coded_hex4 {n : Nat} (h : IsHex4 ds n) : coded ds = ds :=
  coded_of_ascii fun _ hc => Numeral.toNat_lt_of_digitValue? (Numeral.isSome_digitValue?_of_value? h.2 _ hc)

theorem coded_number (n : Number) : coded n.chars = n.chars := by
  have hsign : coded (Number.signChars n.negative) = Number.signChars n.negative := by
    cases n.negative <;> rfl
  have hfraction : coded (Number.fractionChars n.fraction) = Number.fractionChars n.fraction := by
    cases n.fraction with
    | none => rfl
    | some ds => rw [Number.fractionChars, coded_cons (by decide), coded_digits]
  have hexponent : coded (Number.exponentChars n.exponent) = Number.exponentChars n.exponent := by
    cases n.exponent with
    | none => rfl
    | some e =>
      have hmark : e.mark.toNat < 0x80 := by
        rcases e.mark_eq with h | h <;> rw [h] <;> decide
      have hsign : coded e.sign.toList = e.sign.toList := by
        refine coded_of_ascii fun c hc => ?_
        rcases e.sign_eq c (Option.mem_toList.mp hc) with rfl | rfl <;> decide
      rw [Number.exponentChars, Exponent.chars, coded_cons hmark, coded_append, hsign, coded_digits]
  simp only [Number.chars, coded_append, hsign, coded_digits, hfraction, hexponent]

/-! ## Strings in signs -/

theorem le_of_mem_encodeChar (hc : 0x80 ≤ c.toNat) {b : UInt8} (hb : b ∈ Utf8.encodeChar c) : 0x80 ≤ b.toNat := by
  have hvalid : c.toNat < 0x110000 := by
    rcases c.valid with h | h
    · exact Nat.lt_trans h (by decide)
    · exact h.2
  have htail (n : Nat) : 0x80 ≤ (Utf8.tailByte n).toNat := by
    rw [Utf8.toNat_tailByte]
    omega
  -- the first byte of a form is in the range of the form, and the others are tails
  have hmem {first : Nat} {tails : List UInt8} (hfirst : 0x80 ≤ first ∧ first < 256) (htails : ∀ b ∈ tails, 0x80 ≤ b.toNat)
      (hb : b ∈ UInt8.ofNat first :: tails) : 0x80 ≤ b.toNat := by
    rcases List.mem_cons.mp hb with rfl | hb
    · rw [Utf8.toNat_ofNat hfirst.2]
      exact hfirst.1
    · exact htails b hb
  simp only [Utf8.encodeChar, Nat.not_lt.mpr hc, if_false] at hb
  split at hb
  · exact hmem (by omega) (by simp [htail]) hb
  · split at hb
    · exact hmem (by omega) (by simp [htail]) hb
    · exact hmem (by omega) (by simp [htail]) hb

/-- What is in a string for a character that it holds as it is. -/
theorem isPlain_of_mem_coded (hc : isPlain c = true) : ∀ d ∈ coded [c], isPlain d = true := by
  intro d hd
  by_cases hascii : c.toNat < 0x80
  · rw [coded_cons hascii] at hd
    obtain rfl := List.mem_singleton.mp hd
    exact hc
  · obtain ⟨b, hb, rfl⟩ := List.mem_map.mp hd
    have hlow := le_of_mem_encodeChar (Nat.not_lt.mp hascii) (by simpa [Utf8.encode] using hb)
    have hsign : (Char.ofNat b.toNat).toNat = b.toNat :=
      Utf8.toNat_ofNat_of_isValidChar (.inl (Nat.lt_trans b.toNat_lt (by decide)))
    have hne : ∀ q : Char, q.toNat < 0x80 → Char.ofNat b.toNat ≠ q := by
      rintro q hq rfl
      omega
    exact isPlain_iff.mpr ⟨hne _ (by decide), hne _ (by decide), by omega⟩

/-- The pieces of the signs of a piece. -/
def Piece.recoded : Piece → List Piece
  | .plain c h => (coded [c]).pmap .plain (isPlain_of_mem_coded h)
  | p => [p]

theorem chars_recoded_piece (p : Piece) : p.recoded.flatMap Piece.chars = coded p.chars := by
  cases p with
  | plain c h => exact (chars_pmap_plain _).1
  | short letter c h =>
    have hletters : ∀ p ∈ shortEscapes, p.1.toNat < 0x80 := forall_mem_of_all (by decide)
    have hletter : letter.toNat < 0x80 := hletters _ (mem_of_lookup h)
    simp [Piece.recoded, Piece.chars, hletter, coded_of_ascii]
  | unit digits n h =>
    have hunit : coded (Piece.unit digits n h).chars = (Piece.unit digits n h).chars := by
      rw [Piece.chars, coded_cons (by decide), coded_cons (by decide), coded_hex4 h]
    rw [hunit]
    exact List.append_nil _

def recodedPieces (ps : List Piece) : List Piece := ps.flatMap Piece.recoded

theorem quoted_recodedPieces (ps : List Piece) : quoted (recodedPieces ps) = coded (quoted ps) := by
  have hpieces : (recodedPieces ps).flatMap Piece.chars = coded (ps.flatMap Piece.chars) := by
    induction ps with
    | nil => rfl
    | cons p ps ih =>
      rw [recodedPieces, List.flatMap_cons, List.flatMap_append, chars_recoded_piece, List.flatMap_cons,
        coded_append, ← ih, recodedPieces]
  rw [quoted, quoted, hpieces, coded_cons (by decide), coded_append]
  rfl

/-! ## Texts in signs -/

/-- A name of which the signs are those of a name. -/
def recodedName (name : Padded (List Piece)) : Padded (List Piece) := { name with inner := recodedPieces name.inner }

theorem ofSigns_recodedName (name : Padded (List Piece)) :
    ofSigns (quoted (recodedName name).inner) = Utf8.encode (quoted name.inner) := by
  rw [recodedName, quoted_recodedPieces, coded, ofSigns_signs]

theorem nameChars_recodedName (name : Padded (List Piece)) : nameChars (recodedName name) = coded (nameChars name) := by
  simp only [nameChars, recodedName, coded_append, coded_space, quoted_recodedPieces]
  rfl

namespace Value

mutual
/-- The tree of the signs of a text. -/
def recoded : Value → Value
  | .null => .null
  | .bool b => .bool b
  | .number n => .number n
  | .string ps => .string (recodedPieces ps)
  | .emptyArray inside => .emptyArray inside
  | .array ⟨before, v, after⟩ es => .array ⟨before, recoded v, after⟩ (recodedItems es)
  | .emptyObject inside => .emptyObject inside
  | .object (name, ⟨before, v, after⟩) ms =>
    .object (recodedName name, ⟨before, recoded v, after⟩) (recodedMembers ms)

def recodedItems : List (Padded Value) → List (Padded Value)
  | [] => []
  | ⟨before, v, after⟩ :: es => ⟨before, recoded v, after⟩ :: recodedItems es

def recodedMembers : List (Padded (List Piece) × Padded Value) → List (Padded (List Piece) × Padded Value)
  | [] => []
  | (name, ⟨before, v, after⟩) :: ms => (recodedName name, ⟨before, recoded v, after⟩) :: recodedMembers ms
end

mutual
theorem chars_recoded : (v : Value) → v.recoded.chars = coded v.chars
  | .null => rfl
  | .bool true => rfl
  | .bool false => rfl
  | .number n => (coded_number n).symm
  | .string ps => quoted_recodedPieces ps
  | .emptyArray inside => by
    simp (disch := decide) only [recoded, chars, coded_nil, coded_cons, coded_append, coded_space]
  | .array ⟨before, v, after⟩ es => by
    simp (disch := decide) only [recoded, chars, coded_cons, coded_append, coded_space, chars_recoded v,
      itemsChars_recoded es]
  | .emptyObject inside => by
    simp (disch := decide) only [recoded, chars, coded_nil, coded_cons, coded_append, coded_space]
  | .object (name, ⟨before, v, after⟩) ms => by
    simp (disch := decide) only [recoded, chars, coded_cons, coded_append, coded_space, nameChars_recodedName,
      chars_recoded v, membersChars_recoded ms]

theorem itemsChars_recoded : (es : List (Padded Value)) → itemsChars (recodedItems es) = coded (itemsChars es)
  | [] => rfl
  | ⟨before, v, after⟩ :: es => by
    simp (disch := decide) only [recodedItems, itemsChars, coded_cons, coded_append, coded_space, chars_recoded v,
      itemsChars_recoded es]

theorem membersChars_recoded : (ms : List (Padded (List Piece) × Padded Value)) →
    membersChars (recodedMembers ms) = coded (membersChars ms)
  | [] => rfl
  | (name, ⟨before, v, after⟩) :: ms => by
    simp (disch := decide) only [recodedMembers, membersChars, coded_cons, coded_append, coded_space,
      nameChars_recodedName, chars_recoded v, membersChars_recoded ms]
end

theorem ofSigns_chars_recoded (v : Value) : ofSigns v.recoded.chars = Utf8.encode v.chars := by
  rw [chars_recoded, coded, ofSigns_signs]

mutual
theorem outline_recoded : (v : Value) → v.recoded.outline ofSigns = v.outline Utf8.encode
  | .null => rfl
  | .bool true => rfl
  | .bool false => rfl
  | .number n => congrArg Outline.scalar (ofSigns_chars_recoded (.number n))
  | .string ps => congrArg Outline.scalar (ofSigns_chars_recoded (.string ps))
  | .emptyArray _ => rfl
  | .array ⟨_, v, _⟩ es => by simp only [recoded, outline, outline_recoded v, itemOutlines_recoded es]
  | .emptyObject _ => rfl
  | .object (name, ⟨_, v, _⟩) ms => by
    simp only [recoded, outline, outline_recoded v, memberOutlines_recoded ms, ofSigns_recodedName]

theorem itemOutlines_recoded :
    (es : List (Padded Value)) → itemOutlines ofSigns (recodedItems es) = itemOutlines Utf8.encode es
  | [] => rfl
  | ⟨_, v, _⟩ :: es => by simp only [recodedItems, itemOutlines, outline_recoded v, itemOutlines_recoded es]

theorem memberOutlines_recoded : (ms : List (Padded (List Piece) × Padded Value)) →
    memberOutlines ofSigns (recodedMembers ms) = memberOutlines Utf8.encode ms
  | [] => rfl
  | (name, ⟨_, v, _⟩) :: ms => by
    simp only [recodedMembers, memberOutlines, outline_recoded v, memberOutlines_recoded ms, ofSigns_recodedName]
end

end Value

/-- The bytes of a text have the outline of its tree. -/
theorem ofBytes?_encode (d : Document) :
    Outline.ofBytes? (Utf8.encode d.chars) = .some (d.inner.outline Utf8.encode) := by
  refine ofBytes?_eq_some_iff.mpr ⟨⟨d.before, d.inner.recoded, d.after⟩, ?_, Value.outline_recoded d.inner⟩
  change _ = coded d.chars
  simp only [Document.chars, coded_append, coded_space, Value.chars_recoded]

theorem ofBytes?_encode_value (v : Value) :
    Outline.ofBytes? (Utf8.encode v.chars) = .some (v.outline Utf8.encode) := by
  rw [← chars_tight v]
  exact ofBytes?_encode (.tight v)

/-! ## Values in outlines of texts -/

theorem scalar?_encode {v : Value} (h : v.isNest = false) (depth : Nat) :
    scalar? (Utf8.encode v.chars) = v.json? depth := by
  have hread := read?_chars computes_json? 0 (.tight v)
  have hdepth : v.json? 0 = v.json? depth := by
    cases v <;> cases depth <;> first | rfl | cases h
  rw [chars_tight] at hread
  rw [scalar?, Utf8.decode?_eq_some_iff.mpr rfl, Option.bind_some, hread, ← hdepth]
  rfl

theorem name?_encode (ps : List Piece) : name? (Utf8.encode (quoted ps)) = string? ps := by
  have hscalar := @scalar?_encode (.string ps) rfl 0
  rw [Value.chars, Value.json?] at hscalar
  rw [name?, hscalar]
  cases string? ps <;> rfl

/-- **What is in the outline of a text is worth what it is in the tree.** -/
theorem json?_outline (v : Value) (depth : Nat) : (v.outline Utf8.encode).json? depth = v.json? depth := by
  induction depth generalizing v with
  | zero =>
    cases hv : v.isNest with
    | false => rw [Value.outline_of_isNest hv, Outline.json?, scalar?_encode hv]
    | true => cases v <;> first | rfl | cases hv
  | succ depth ih =>
    cases v with
    | emptyArray | emptyObject => rfl
    | array first others =>
      rw [Value.outline_array, Outline.json?, mapM_map_eq, Value.json?]
      simp only [ih]
    | object first others =>
      have hmember : ∀ m : Member, ((name? (Utf8.encode (quoted m.1.inner))).bind fun n =>
          ((m.2.inner.outline Utf8.encode).json? depth).map fun v => (n, v)) =
            Value.member? string? (Value.json? depth) m := by
        intro m
        rw [name?_encode, ih, Value.member?]
      rw [Value.outline_object, Outline.json?, mapM_map_eq, Value.json?]
      simp only [hmember]
    | _ => rw [Value.outline_of_isNest rfl, Outline.json?, scalar?_encode rfl]

/-- The object of some fields. -/
def gathering : List Member → Value
  | [] => .emptyObject .none
  | m :: ms => .object m ms

theorem outline_gathering (ms : List Member) : (gathering ms).outline Utf8.encode =
    .obj (ms.map fun m => (Utf8.encode (quoted m.1.inner), m.2.inner.outline Utf8.encode)) := by
  cases ms with
  | nil => rfl
  | cons m ms => exact Value.outline_object m ms

end Grammar

/-! ## Views -/

namespace Json

open Grammar

variable {known : List (String × View)} {depth : Nat}

theorem exists_maxDepth : ∃ depth, maxDepth = depth + 1 := ⟨_, rfl⟩

theorem View.see?_whole (depth : Nat) (o : Outline) : View.whole.see? depth o = o.json? depth := by
  cases depth <;> rfl

/-- An object whose fields are all looked at as values is seen as it is. -/
theorem View.see?_record {os : List (Bytes × Outline)} {fields : List (String × Json)}
    (h : (Outline.obj os).json? (depth + 1) = .some (.obj fields))
    (hknown : ∀ f ∈ fields, known.lookup f.1 = .some .whole) :
    (View.record known).see? (depth + 1) (.obj os) = .some (.obj fields) := by
  obtain ⟨fields', hfields, heq⟩ := Option.map_eq_some_iff.mp h
  rw [Json.obj.inj heq] at hfields
  have hsees : os.mapM (field? (see? depth) known) = .some (fields.map .some) := by
    refine mapM_eq_some_iff.mpr (List.forall₂_map_right_iff.mpr ?_)
    have hvalues := (List.forall₂_and_left _ _).mpr ⟨hknown, (mapM_eq_some_iff.mp hfields).flip⟩
    refine (hvalues.imp fun f o hf => ?_).flip
    obtain ⟨hlookup, hf⟩ := hf
    obtain ⟨name, hname, hvalue⟩ := Option.bind_eq_some_iff.mp hf
    obtain ⟨v, hv, rfl⟩ := Option.map_eq_some_iff.mp hvalue
    simp only [flip, field?, hname, Option.bind_some, hlookup, see?_whole, hv, Option.map_some]
  rw [see?, hsees]
  simp

/-- **A field that is not known is passed over**, wherever it stands and whatever it holds. -/
theorem View.see?_insert {f : Bytes × Outline} {name : String} (hname : Outline.name? f.1 = .some name)
    (hunknown : known.lookup name = .none) (depth : Nat) (front back : List (Bytes × Outline)) :
    (View.record known).see? (depth + 1) (.obj (front ++ f :: back)) =
      (View.record known).see? (depth + 1) (.obj (front ++ back)) := by
  have hfield : field? (see? depth) known f = .some .none := by
    rw [field?, hname, Option.bind_some, hunknown]
  simp only [see?, List.mapM_append, mapM_cons_eq, hfield]
  cases front.mapM (field? (see? depth) known) with
  | none => rfl
  | some fs => cases back.mapM (field? (see? depth) known) <;> simp

/-- Bytes with one more field that is not known are seen alike. -/
theorem View.ofBytes?_insert {bs bs' : Bytes} {f : Bytes × Outline} {front back : List (Bytes × Outline)}
    {name : String} (h : Outline.ofBytes? bs = .some (.obj (front ++ f :: back)))
    (h' : Outline.ofBytes? bs' = .some (.obj (front ++ back))) (hname : Outline.name? f.1 = .some name)
    (hunknown : known.lookup name = .none) : (View.record known).ofBytes? bs = (View.record known).ofBytes? bs' := by
  obtain ⟨depth, hdepth⟩ := exists_maxDepth
  rw [ofBytes?, ofBytes?, h, h', Option.bind_some, Option.bind_some, hdepth, see?_insert hname hunknown]

/-- An object is seen alike with one more field that is not known. -/
theorem View.ofBytes?_gathering {m : Member} {name : String} (hname : string? m.1.inner = .some name)
    (hunknown : known.lookup name = .none) (front back : List Member) :
    (View.record known).ofBytes? (Utf8.encode (gathering (front ++ m :: back)).chars) =
      (View.record known).ofBytes? (Utf8.encode (gathering (front ++ back)).chars) := by
  have houtline (ms : List Member) : Outline.ofBytes? (Utf8.encode (gathering ms).chars) =
      .some (.obj (ms.map fun m => (Utf8.encode (quoted m.1.inner), m.2.inner.outline Utf8.encode))) := by
    rw [ofBytes?_encode_value, outline_gathering]
  have hmore := houtline (front ++ m :: back)
  have hless := houtline (front ++ back)
  rw [List.map_append, List.map_cons] at hmore
  rw [List.map_append] at hless
  exact ofBytes?_insert hmore hless ((name?_encode m.1.inner).trans hname) hunknown

theorem Numeric.value?_ne_obj (t : Numeric) (fields : List (String × Json)) : t.value? ≠ .some (.obj fields) := by
  intro h
  unfold value? at h
  dsimp only at h
  repeat' split at h
  all_goals first
    | cases h
    | obtain ⟨_, -, ⟨⟩⟩ := Option.map_eq_some_iff.mp h

theorem exists_outline_of_json? {v : Value} {fields : List (String × Json)}
    (h : v.json? (depth + 1) = .some (.obj fields)) : ∃ os, v.outline Utf8.encode = .obj os := by
  cases v with
  | object first others => exact ⟨_, Value.outline_object first others⟩
  | emptyObject inside => exact ⟨[], rfl⟩
  | number n => exact absurd h (n.parts.value?_ne_obj fields)
  | array | string => obtain ⟨_, -, ⟨⟩⟩ := Option.map_eq_some_iff.mp h
  | _ => cases h

/-- **A text that is an object is seen as that**, where all of its fields are looked at as values. -/
theorem View.ofBytes?_record {cs : List Char} {fields : List (String × Json)}
    (h : Json.ofChars? cs = .some (.obj fields)) (hknown : ∀ f ∈ fields, known.lookup f.1 = .some .whole) :
    (View.record known).ofBytes? (Utf8.encode cs) = .some (.obj fields) := by
  obtain ⟨d, rfl, hd⟩ := ofChars?_eq_some_iff.mp h
  obtain ⟨depth, hdepth⟩ := exists_maxDepth
  rw [hdepth] at hd
  obtain ⟨os, hos⟩ := exists_outline_of_json? hd
  have hvalue := json?_outline d.inner (depth + 1)
  rw [hos, hd] at hvalue
  rw [View.ofBytes?, ofBytes?_encode, Option.bind_some, hos, hdepth]
  exact View.see?_record hvalue hknown

end Json
end MarketSearch
