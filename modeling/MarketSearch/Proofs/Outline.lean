/-
Bytes that have an outline: their signs are a text of the grammar, whatever the
text is worth, and the outline is the shape of its tree with the scalars and
the names as they are written (`ofBytes?_eq_some_iff`).

Strings and scalars are passed over to their end and no further, as they are
read elsewhere, but nothing is asked of them.  The rest is the reader of all
builders, and the nesting is no limit because a text is longer than it is deep
(`Value.nestsWithin_of_length_le`).
-/
import MarketSearch.Json.Outline
import MarketSearch.Proofs.Recognition
import MarketSearch.Proofs.Utf8

namespace MarketSearch

theorem Json.Outline.ofSigns_signs (bs : Bytes) : ofSigns (signs bs) = bs := by
  unfold ofSigns signs
  rw [List.map_map, List.map_congr_left (g := id), List.map_id]
  intro b _
  have hvalid : b.toNat.isValidChar := .inl (Nat.lt_trans b.toNat_lt (by decide))
  rw [Function.comp_apply, Utf8.toNat_ofNat_of_isValidChar hvalid, UInt8.ofNat_toNat, id]

namespace Grammar

open Json Json.Outline

variable {cs r rest : List Char}

/-! ## Strings -/

theorem skipEscape_short {letter c : Char} (h : shortEscapes.lookup letter = .some c) (cs : List Char) :
    skipEscape (letter :: cs) = .some cs := by
  have hmem := mem_of_lookup h
  simp only [shortEscapes, List.mem_cons, List.not_mem_nil, or_false, Prod.mk.injEq] at hmem
  rcases hmem with ⟨rfl, -⟩ | ⟨rfl, -⟩ | ⟨rfl, -⟩ | ⟨rfl, -⟩ | ⟨rfl, -⟩ | ⟨rfl, -⟩ | ⟨rfl, -⟩ | ⟨rfl, -⟩ <;> rfl

theorem skipEscape_unit {digits : List Char} {n : Nat} (h : IsHex4 digits n) (cs : List Char) :
    skipEscape ('u' :: (digits ++ cs)) = .some cs := by
  simp [skipEscape, hex4?_append h]

/-- A string is passed over up to its closing quote, whatever it stands for. -/
theorem skipStringBody_chars {ps : List Piece} {fuel : Nat} (hfuel : ps.length < fuel) :
    skipStringBody fuel (ps.flatMap Piece.chars ++ '"' :: rest) = .some rest := by
  induction ps generalizing fuel with
    (obtain ⟨fuel, rfl⟩ := Nat.exists_eq_add_one_of_ne_zero (Nat.ne_zero_of_lt hfuel)
     simp only [List.length_nil, List.length_cons, Nat.add_lt_add_iff_right, List.flatMap_nil,
       List.flatMap_cons, List.append_assoc, List.nil_append] at hfuel ⊢)
  | nil => simp [skipStringBody]
  | cons p ps ih =>
    cases p with
    | plain c hc =>
      obtain ⟨hquote, hslash, hcontrol⟩ := isPlain_iff.mp hc
      simp only [Piece.chars, List.cons_append, List.nil_append]
      rw [skipStringBody, if_neg hquote, if_neg hslash, if_neg (Nat.not_lt.mpr hcontrol), ih hfuel]
    | short letter c hletter => simp [Piece.chars, skipStringBody, skipEscape_short hletter, ih hfuel]
    | unit digits n hn => simp [Piece.chars, skipStringBody, skipEscape_unit hn, ih hfuel]

theorem skipString_quoted (ps : List Piece) (rest : List Char) : skipString (quoted ps ++ rest) = .some rest := by
  have hlength := length_le_chars ps
  simp only [quoted, skipString, List.cons_append, List.append_assoc, List.nil_append]
  refine skipStringBody_chars ?_
  simp only [List.length_append]
  omega

theorem exists_of_skipEscape (h : skipEscape cs = .some r) : ∃ p : Piece, '\\' :: cs = p.chars ++ r := by
  unfold skipEscape at h
  split at h
  · obtain ⟨⟨n, r'⟩, hn, rfl⟩ := Option.map_eq_some_iff.mp h
    obtain ⟨digits, hdigits, rfl⟩ := exists_of_hex4? hn
    exact ⟨.unit digits n hdigits, rfl⟩
  · next c cs hunit =>
    split at h
    · next hletter =>
      cases h
      have hletters : ∀ c ∈ ['"', '\\', '/', 'b', 'f', 'n', 'r', 't'], (shortEscapes.lookup c).isSome = true :=
        forall_mem_of_all (by decide)
      obtain ⟨d, hd⟩ := Option.isSome_iff_exists.mp (hletters c (List.contains_iff_mem.mp hletter))
      exact ⟨.short c d hd, rfl⟩
    · cases h
  · cases h

theorem exists_of_skipStringBody {fuel : Nat} (h : skipStringBody fuel cs = .some r) :
    ∃ ps : List Piece, cs = ps.flatMap Piece.chars ++ '"' :: r := by
  induction fuel generalizing cs with
  | zero => cases h
  | succ fuel ih =>
    cases cs with
    | nil => cases h
    | cons c cs =>
      rw [skipStringBody] at h
      split at h
      · next hquote =>
        cases h
        exact ⟨[], by rw [hquote]; rfl⟩
      · next hquote =>
        split at h
        · next hslash =>
          obtain ⟨r', hescape, hbody⟩ := Option.bind_eq_some_iff.mp h
          obtain ⟨p, hp⟩ := exists_of_skipEscape hescape
          obtain ⟨ps, rfl⟩ := ih hbody
          exact ⟨p :: ps, by rw [hslash, hp]; simp⟩
        · next hslash =>
          split at h
          · cases h
          · next hcontrol =>
            obtain ⟨ps, rfl⟩ := ih h
            exact ⟨.plain c (isPlain_iff.mpr ⟨hquote, hslash, Nat.not_lt.mp hcontrol⟩) :: ps, rfl⟩

theorem exists_of_skipString (h : skipString cs = .some r) : ∃ ps : List Piece, cs = quoted ps ++ r := by
  unfold skipString at h
  split at h
  · obtain ⟨ps, rfl⟩ := exists_of_skipStringBody h
    exact ⟨ps, by simp [quoted]⟩
  · cases h

/-! ## Scalars -/

theorem skipScalar_chars {v : Value} (h : v.isNest = false) (hrest : Ends rest) :
    skipScalar (v.chars ++ rest) = .some rest := by
  cases v with
  | null => simp [Value.chars, skipScalar]
  | bool b => cases b <;> simp [Value.chars, skipScalar]
  | number n =>
    obtain ⟨c, cs, hchars, hc⟩ := n.exists_head_chars
    have hword : c ∉ ['n', 't', 'f', '"'] := not_mem_of_head hc (forall_mem_of_all (by decide))
    simp only [List.mem_cons, List.not_mem_nil, or_false, not_or] at hword
    have hread := n.readNumeric_chars hrest
    rw [hchars, List.cons_append] at hread
    rw [Value.chars, hchars, List.cons_append]
    simp [skipScalar, hword, hread]
  | string ps => exact skipString_quoted ps rest
  | _ => cases h

theorem exists_of_skipScalar (h : skipScalar cs = .some r) : ∃ v : Value, v.isNest = false ∧ cs = v.chars ++ r := by
  unfold skipScalar at h
  split at h
  · cases h
    exact ⟨.null, rfl, by rw [Value.chars]; rfl⟩
  · cases h
    exact ⟨.bool true, rfl, by rw [Value.chars]; rfl⟩
  · cases h
    exact ⟨.bool false, rfl, by rw [Value.chars]; rfl⟩
  · obtain ⟨ps, hps⟩ := exists_of_skipString h
    exact ⟨.string ps, rfl, by rw [Value.chars, hps]⟩
  · obtain ⟨⟨t, r'⟩, ht, rfl⟩ := Option.map_eq_some_iff.mp h
    obtain ⟨n, -, rfl⟩ := Number.exists_of_readNumeric ht
    exact ⟨.number n, rfl, by rw [Value.chars]⟩

theorem passed_append {skip : List Char → Option (List Char)} (h : skip (cs ++ r) = .some r) :
    passed skip (cs ++ r) = .some (ofSigns cs, r) := by
  simp [passed, h]

/-! ## Outlines of trees -/

namespace Value

mutual
/-- The outline of a text, of which `bytes` says how texts are written. -/
def outline (bytes : List Char → Bytes) : Value → Outline
  | .emptyArray _ => .arr []
  | .array ⟨_, v, _⟩ es => .arr (outline bytes v :: itemOutlines bytes es)
  | .emptyObject _ => .obj []
  | .object (name, ⟨_, v, _⟩) ms =>
    .obj ((bytes (quoted name.inner), outline bytes v) :: memberOutlines bytes ms)
  | v => .scalar (bytes v.chars)

def itemOutlines (bytes : List Char → Bytes) : List (Padded Value) → List Outline
  | [] => []
  | ⟨_, v, _⟩ :: es => outline bytes v :: itemOutlines bytes es

def memberOutlines (bytes : List Char → Bytes) :
    List (Padded (List Piece) × Padded Value) → List (Bytes × Outline)
  | [] => []
  | (name, ⟨_, v, _⟩) :: ms => (bytes (quoted name.inner), outline bytes v) :: memberOutlines bytes ms
end

variable {bytes : List Char → Bytes} {v w : Value} {depth : Nat}

theorem itemOutlines_eq (es : List (Padded Value)) :
    itemOutlines bytes es = es.map fun e => e.inner.outline bytes := by
  induction es with
  | nil => rfl
  | cons e es ih => rw [itemOutlines, ih, List.map_cons]

theorem memberOutlines_eq (ms : List Member) :
    memberOutlines bytes ms = ms.map fun m => (bytes (quoted m.1.inner), m.2.inner.outline bytes) := by
  induction ms with
  | nil => rfl
  | cons m ms ih => rw [memberOutlines, ih, List.map_cons]

theorem outline_array (first : Padded Value) (others : List (Padded Value)) :
    (array first others).outline bytes = .arr ((first :: others).map fun e => e.inner.outline bytes) := by
  rw [outline, itemOutlines_eq, List.map_cons]

theorem outline_object (first : Member) (others : List Member) :
    (object first others).outline bytes =
      .obj ((first :: others).map fun m => (bytes (quoted m.1.inner), m.2.inner.outline bytes)) := by
  rw [outline, memberOutlines_eq, List.map_cons]

theorem outline_of_isNest (h : v.isNest = false) : v.outline bytes = .scalar (bytes v.chars) := by
  cases v <;> first | rfl | cases h

/-! ### Nesting -/

instance decidableNestsWithin : (depth : Nat) → (v : Value) → Decidable (v.NestsWithin depth)
  | 0, v => inferInstanceAs (Decidable (v.isNest = false))
  | depth + 1, v =>
    have := decidableNestsWithin depth
    inferInstanceAs (Decidable (∀ w ∈ v.children, w.NestsWithin depth))

theorem nestsWithin_of_isNest (h : v.isNest = false) (depth : Nat) : v.NestsWithin depth := by
  cases depth with
  | zero => exact h
  | succ depth => simp [NestsWithin, children_of_isNest h]

theorem length_inner_lt_itemsChars {e : Padded Value} {es : List (Padded Value)} (h : e ∈ es) :
    e.inner.chars.length < (itemsChars es).length := by
  induction es with
  | nil => cases h
  | cons e' es ih =>
    simp only [itemsChars, List.length_cons, List.length_append]
    rcases List.mem_cons.mp h with rfl | h
    · omega
    · have := ih h
      omega

theorem length_inner_lt_membersChars {m : Member} {ms : List Member} (h : m ∈ ms) :
    m.2.inner.chars.length < (membersChars ms).length := by
  induction ms with
  | nil => cases h
  | cons m' ms ih =>
    obtain ⟨name, before, v, after⟩ := m'
    simp only [membersChars, List.length_cons, List.length_append]
    rcases List.mem_cons.mp h with rfl | h
    · dsimp only
      omega
    · have := ih h
      omega

/-- What is inside is shorter. -/
theorem length_lt_of_mem_children (h : w ∈ v.children) : w.chars.length < v.chars.length := by
  cases v with
  | array first others =>
    obtain ⟨e, he, rfl⟩ := List.mem_map.mp h
    simp only [chars, List.length_cons, List.length_append]
    rcases List.mem_cons.mp he with rfl | he
    · omega
    · have := length_inner_lt_itemsChars he
      omega
  | object first others =>
    obtain ⟨m, hm, rfl⟩ := List.mem_map.mp h
    obtain ⟨name, before, v, after⟩ := first
    simp only [chars, List.length_cons, List.length_append]
    rcases List.mem_cons.mp hm with rfl | hm
    · dsimp only
      omega
    · have := length_inner_lt_membersChars hm
      omega
  | _ => cases h

/-- A text nests no deeper than it is long. -/
theorem nestsWithin_of_length_le (h : v.chars.length ≤ depth) : v.NestsWithin depth := by
  induction depth generalizing v with
  | zero =>
    obtain ⟨c, cs, hchars, -⟩ := v.exists_head_chars
    rw [hchars] at h
    exact absurd h (Nat.not_succ_le_zero _)
  | succ depth ih => exact fun w hw => ih (Nat.le_of_lt_succ (Nat.lt_of_lt_of_le (length_lt_of_mem_children hw) h))

/-- The outline of a text in signs, if it nests at most so deep. -/
def outline? (depth : Nat) (v : Value) : Option Outline :=
  if v.NestsWithin depth then .some (v.outline ofSigns) else .none

theorem outline?_of_isNest (h : v.isNest = false) (depth : Nat) :
    v.outline? depth = .some (.scalar (ofSigns v.chars)) := by
  rw [outline?, if_pos (nestsWithin_of_isNest h depth), outline_of_isNest h]

end Value

/-! ## Bytes -/

theorem scalar_outlines {v : Value} (h : v.isNest = false) (hrest : Ends rest) :
    outlines.scalar (v.chars ++ rest) = .some (.scalar (ofSigns v.chars), rest) := by
  simp only [outlines, passed_append (skipScalar_chars h hrest)]
  rfl

theorem computes_outline? :
    Computes outlines (fun ps => .some (ofSigns (quoted ps))) Value.outline? where
  scalar hv hrest depth := by
    rw [scalar_outlines hv hrest, Value.outline?_of_isNest hv]
    rfl
  names ps rest := passed_append (skipString_quoted ps rest)
  deep v h := if_neg (by simp [Value.NestsWithin, h])
  emptyArray _ _ := if_pos (by simp [Value.NestsWithin, Value.children])
  array depth first others := by
    simp only [Value.outline?, Value.NestsWithin, Value.children, List.forall_mem_map, mapM_ite,
      Value.outline_array]
    split <;> rfl
  emptyObject _ _ := if_pos (by simp [Value.NestsWithin, Value.children])
  object depth first others := by
    have hmember : Value.member? (fun ps => .some (ofSigns (quoted ps))) (Value.outline? depth) = fun m =>
        if m.2.inner.NestsWithin depth then
          .some (ofSigns (quoted m.1.inner), m.2.inner.outline ofSigns) else .none := by
      funext m
      rw [Value.member?, Value.outline?, Option.bind_some]
      split <;> rfl
    simp only [hmember, Value.outline?, Value.NestsWithin, Value.children, List.forall_mem_map, mapM_ite,
      Value.outline_object]
    split <;> rfl

theorem inverts_outline? :
    Inverts outlines (fun ps => .some (ofSigns (quoted ps))) Value.outline? where
  scalar {cs r o} h depth := by
    obtain ⟨⟨text, r'⟩, hpassed, heq⟩ := Option.map_eq_some_iff.mp h
    obtain ⟨rfl, rfl⟩ := Prod.mk.inj heq
    obtain ⟨r'', hskip, -⟩ := Option.map_eq_some_iff.mp hpassed
    obtain ⟨v, hv, rfl⟩ := exists_of_skipScalar hskip
    rw [passed_append hskip] at hpassed
    cases hpassed
    exact ⟨v, rfl, Value.outline?_of_isNest hv depth⟩
  names cs n r h := by
    obtain ⟨r', hskip, -⟩ := Option.map_eq_some_iff.mp h
    obtain ⟨ps, rfl⟩ := exists_of_skipString hskip
    obtain ⟨rfl, rfl⟩ := Prod.mk.inj (Option.some.inj ((passed_append hskip).symm.trans h))
    exact ⟨ps, rfl, rfl⟩

/-- **Bytes have an outline when their signs are a text of the grammar**, whatever it is worth. -/
theorem ofBytes?_eq_some_iff {bs : Bytes} {o : Outline} : Outline.ofBytes? bs = .some o ↔
    ∃ d : Document, d.chars = signs bs ∧ d.inner.outline ofSigns = o := by
  rw [Outline.ofBytes?, read?_eq_some_iff computes_outline? inverts_outline?]
  refine exists_congr fun d => and_congr_right fun hd => ?_
  have hlength : d.inner.chars.length ≤ bs.length := by
    have hsigns : d.chars.length = bs.length := by rw [hd, signs, List.length_map]
    rw [← hsigns, Document.chars, List.length_append, List.length_append]
    omega
  rw [Value.outline?, if_pos (Value.nestsWithin_of_length_le hlength), Option.some.injEq]

end Grammar
end MarketSearch
