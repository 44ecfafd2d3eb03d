/-
Addresses that are read as they are written.

An address of a service that is `http://`, a host, perhaps a port, and segments
of letters and digits (`Url.Base`) leads, with the place of a search below it,
to that host and to the path as it stands: no character in it is escaped and no
segment is a step (`Url.ofChars?_place`).
-/
import MarketSearch.Client.Marketplace
import MarketSearch.Proofs.Lists
import MarketSearch.Proofs.Numeral

namespace MarketSearch

/-- What holds of the characters of ASCII holds of each of them. -/
theorem forall_ascii {P : Char → Prop} (h : ∀ n < 128, P (Char.ofNat n)) {c : Char} (hc : c.toNat < 128) :
    P c := by
  have := h c.toNat hc
  rwa [Char.ofNat_toNat] at this

namespace Text

theorem trimSlashes_append_replicate (cs : List Char) (n : Nat) :
    trimSlashes (cs ++ List.replicate n '/') = trimSlashes cs := by
  induction n with
  | zero => simp
  | succ n ih => rw [List.replicate_succ', ← List.append_assoc, trimSlashes_append_slash, ih]

theorem trimSlashes_of_getLast? {cs : List Char} (h : cs.getLast? ≠ .some '/') : trimSlashes cs = cs := by
  unfold trimSlashes
  rw [dropWhile_of_head?, List.reverse_reverse]
  intro c hc
  rw [List.head?_reverse] at hc
  rw [hc] at h
  simpa using h

/-- Pieces that each follow a mark are the pieces between the marks. -/
theorem splitAll_flatMap {mark : Char} {piece : List Char} {pieces : List (List Char)}
    (h : ∀ p ∈ piece :: pieces, mark ∉ p) :
    splitAll mark (piece ++ pieces.flatMap (mark :: ·)) = piece :: pieces := by
  induction pieces generalizing piece with
  | nil => simpa using splitAll_of_not_mem (h piece List.mem_cons_self)
  | cons p ps ih =>
    rw [List.flatMap_cons, List.cons_append, splitAll_append (h piece List.mem_cons_self),
      ih fun q hq => h q (List.mem_cons_of_mem _ hq)]

end Text

namespace Url

/-! ## Characters -/

/-- A visible character that ends no part of an address before its query. -/
def IsInner (c : Char) : Prop := 0x20 < c.toNat ∧ c.toNat < 0x7F ∧ c ≠ '#' ∧ c ≠ '?'

instance (c : Char) : Decidable (IsInner c) := inferInstanceAs (Decidable (_ ∧ _))

/-- A character of a segment that stands for itself and is no part of a step. -/
def isWordChar (c : Char) : Bool := c.isAlphanum || c == '_'

theorem toNat_lt_of_isWordChar {c : Char} (h : isWordChar c = true) : c.toNat < 128 := by
  delta isWordChar Char.isAlphanum Char.isAlpha Char.isUpper Char.isLower Char.isDigit at h
  simp only [Bool.or_eq_true, Bool.and_eq_true, decide_eq_true_eq, beq_iff_eq, ge_iff_le,
    UInt32.le_iff_toNat_le] at h
  rcases h with ((h | h) | h) | rfl
  · exact Nat.lt_of_le_of_lt h.2 (by decide)
  · exact Nat.lt_of_le_of_lt h.2 (by decide)
  · exact Nat.lt_of_le_of_lt h.2 (by decide)
  · decide

theorem isInner_of_isWordChar {c : Char} (h : isWordChar c = true) :
    IsInner c ∧ isSlash c = false ∧ c ≠ '.' ∧ c ≠ '%' :=
  forall_ascii (P := fun c => isWordChar c = true → IsInner c ∧ isSlash c = false ∧ c ≠ '.' ∧ c ≠ '%')
    (by decide +kernel) (toNat_lt_of_isWordChar h) h

theorem isInner_of_isDigit {c : Char} (h : c.isDigit = true) : IsInner c ∧ isSlash c = false :=
  have hword := isInner_of_isWordChar (c := c) (by simp [isWordChar, Char.isAlphanum, h])
  ⟨hword.1, hword.2.1⟩

theorem clean_of_isInner {cs : List Char} (h : ∀ c ∈ cs, IsInner c) : clean cs = cs := by
  have hstart : ∀ c ∈ cs, (decide (c.toNat ≤ 0x20)) = false := fun c hc =>
    decide_eq_false (Nat.not_le.mpr (h c hc).1)
  have hinner : ((cs.dropWhile (·.toNat ≤ 0x20)).reverse.dropWhile (·.toNat ≤ 0x20)).reverse = cs := by
    rw [dropWhile_of_head? fun c hc => hstart c (List.mem_of_mem_head? hc),
      dropWhile_of_head? fun c hc => hstart c (List.mem_reverse.mp (List.mem_of_mem_head? hc)),
      List.reverse_reverse]
  unfold clean
  simp only [hinner, List.filter_eq_self]
  intro c hc
  have hvisible := (h c hc).1
  have hne : ∀ d : Char, d.toNat ≤ 0x20 → (c == d) = false := by
    intro d hd
    refine beq_false_of_ne fun heq => ?_
    rw [heq] at hvisible
    omega
  simp [hne '\t' (by decide), hne '\n' (by decide), hne '\r' (by decide)]

theorem cutAt_of_not_mem {mark : Char} {cs : List Char} (h : mark ∉ cs) : cutAt mark cs = (cs, .none) := by
  simp only [cutAt, Text.splitFirst?_eq_none h]

/-! ## Hosts and ports -/

theorem isInner_of_isNameChar {c : Char} (h : isNameChar c = true) :
    IsInner c ∧ isSlash c = false ∧ c ≠ ':' ∧ c ≠ ']' := by
  have hlarge : c.toNat < 128 := by
    simp only [isNameChar, Bool.and_eq_true, decide_eq_true_eq] at h
    omega
  exact forall_ascii
    (P := fun c => isNameChar c = true → IsInner c ∧ isSlash c = false ∧ c ≠ ':' ∧ c ≠ ']')
    (by decide +kernel) hlarge h

/-- A character between the brackets of an address of groups. -/
def isGroupChar (c : Char) : Bool := c == ':' || c == '.' || (Numeral.digitValue? 16 c).isSome

theorem isInner_of_isGroupChar {c : Char} (h : isGroupChar c = true) : IsInner c ∧ isSlash c = false := by
  have hlarge : c.toNat < 128 := by
    simp only [isGroupChar, Bool.or_eq_true, beq_iff_eq] at h
    rcases h with (rfl | rfl) | h
    · decide
    · decide
    · exact Numeral.toNat_lt_of_digitValue? h
  exact forall_ascii (P := fun c => isGroupChar c = true → IsInner c ∧ isSlash c = false)
    (by decide +kernel) hlarge h

/-- A host is an address of groups between brackets, or a name. -/
theorem isHost_cases {host : List Char} (h : isHost host = true) :
    (∃ groups, host = '[' :: (groups ++ [']']) ∧ ∀ c ∈ groups, isGroupChar c = true) ∨
    (host ≠ [] ∧ ∀ c ∈ host, isNameChar c = true) := by
  unfold isHost at h
  split at h
  · next rest =>
    simp only [Bool.and_eq_true, beq_iff_eq, List.all_eq_true] at h
    obtain ⟨hlast, hall⟩ := h
    obtain ⟨groups, rfl⟩ := List.getLast?_eq_some_iff.mp hlast
    rw [List.dropLast_concat] at hall
    exact .inl ⟨groups, rfl, hall⟩
  · simp only [Bool.and_eq_true, Bool.not_eq_true', List.isEmpty_eq_false_iff, List.all_eq_true] at h
    exact .inr h

theorem isInner_of_mem_host {host : List Char} (h : isHost host = true) {c : Char} (hc : c ∈ host) :
    IsInner c ∧ isSlash c = false := by
  rcases isHost_cases h with ⟨groups, rfl, hall⟩ | ⟨-, hall⟩
  · simp only [List.mem_cons, List.mem_append, List.not_mem_nil, or_false] at hc
    rcases hc with rfl | hc | rfl
    · decide
    · exact isInner_of_isGroupChar (hall c hc)
    · decide
  · have hname := isInner_of_isNameChar (hall c hc)
    exact ⟨hname.1, hname.2.1⟩

/-- A port as it follows a host. -/
def portChars : Option Nat → List Char
  | .some n => ':' :: Numeral.digits n
  | .none => []

theorem origin?_of_isHost {host : List Char} {port : Option Nat} (hhost : isHost host = true)
    (hport : ∀ n ∈ port, n < 65536) :
    ∃ p, origin? "http" (host ++ portChars port) = .some ⟨"http", host.map Char.toLower, p⟩ := by
  cases port with
  | none =>
    have hsplit : splitPort host = (host, []) := by
      unfold splitPort
      rcases isHost_cases hhost with ⟨groups, rfl, -⟩ | ⟨-, hall⟩
      · rw [if_pos]
        simp [List.getLast?_cons]
      · have hcolon : ':' ∉ host := fun h => (isInner_of_isNameChar (hall _ h)).2.2.1 rfl
        rw [Text.splitLast?_eq_none hcolon]
        split <;> rfl
    refine ⟨.none, ?_⟩
    simp only [origin?, portChars, List.append_nil, hsplit, hhost, if_true]
    rfl
  | some n =>
    have hdigits : ∀ c ∈ Numeral.digits n, c.isDigit = true := fun c => Numeral.isDigit_of_mem_digits
    have hcolon : ':' ∉ Numeral.digits n := fun h => absurd (hdigits _ h) (by decide)
    have hsplit : splitPort (host ++ ':' :: Numeral.digits n) = (host, Numeral.digits n) := by
      unfold splitPort
      rw [if_neg, Text.splitLast?_append host hcolon]
      · rfl
      · intro hlast
        rw [List.getLast?_append, List.getLast?_cons_of_ne_nil (Numeral.digits_ne_nil n)] at hlast
        cases hdigit : (Numeral.digits n).getLast? with
        | none => exact absurd (List.getLast?_eq_none_iff.mp hdigit) (Numeral.digits_ne_nil n)
        | some c =>
          rw [hdigit] at hlast
          cases hlast
          exact absurd (hdigits _ (List.mem_of_getLast? hdigit)) (by decide)
    have hread : ∃ p, port? "http" (Numeral.digits n) = .some p := by
      unfold port?
      rw [if_neg (by simpa using Numeral.digits_ne_nil n), if_pos (List.all_eq_true.mpr hdigits),
        Numeral.value?_digits]
      simp [Option.filter, hport n rfl]
    obtain ⟨p, hp⟩ := hread
    refine ⟨p, ?_⟩
    simp only [origin?, portChars, hsplit, hhost, if_true, hp]
    rfl

/-! ## Paths -/

theorem isDot_eq_false {cs : List Char} (h : ∀ c ∈ cs, c ≠ '.' ∧ c ≠ '%') : isDot cs = false := by
  simp only [isDot, List.any_cons, List.any_nil, Bool.or_false, Bool.or_eq_false_iff, beq_eq_false_iff_ne]
  refine ⟨?_, ?_, ?_⟩
  · rintro rfl
    exact (h '.' (by decide)).1 rfl
  · rintro rfl
    exact (h '%' (by decide)).2 rfl
  · rintro rfl
    exact (h '%' (by decide)).2 rfl

theorem escape_of_isWordChar {cs : List Char} (h : ∀ c ∈ cs, isWordChar c = true) :
    escape pathMarks cs = cs := by
  have hone : ∀ c : Char, isWordChar c = true → escape pathMarks [c] = [c] := fun c hc =>
    forall_ascii (P := fun c => isWordChar c = true → escape pathMarks [c] = [c]) (by decide +kernel)
      (toNat_lt_of_isWordChar hc) hc
  induction cs with
  | nil => rfl
  | cons c cs ih =>
    have hcons : escape pathMarks (c :: cs) = escape pathMarks [c] ++ escape pathMarks cs := by
      simp [escape, Utf8.encode, Percent.encode]
    rw [hcons, hone c (h c List.mem_cons_self), ih fun d hd => h d (List.mem_cons_of_mem _ hd)]
    rfl

/-- A segment of words is one step down. -/
theorem descend_of_isWordChar {above : List (List Char)} {segment : List Char}
    (h : ∀ c ∈ segment, isWordChar c = true) :
    isUp segment = false ∧ isHere segment = false ∧ descend above segment = segment :: above := by
  have hmarks : ∀ c ∈ segment, c ≠ '.' ∧ c ≠ '%' := fun c hc => (isInner_of_isWordChar (h c hc)).2.2
  have hhere : isHere segment = false := isDot_eq_false hmarks
  have hup : isUp segment = false := by
    refine List.any_eq_false.mpr fun n _ => ?_
    rw [isDot_eq_false fun c hc => hmarks c (List.mem_of_mem_take hc)]
    simp
  refine ⟨hup, hhere, ?_⟩
  unfold descend
  rw [if_neg (by simp [hup]), if_neg (by simp [hhere]), escape_of_isWordChar h]

theorem foldl_descend {segments above : List (List Char)}
    (h : ∀ s ∈ segments, ∀ c ∈ s, isWordChar c = true) :
    segments.foldl descend above = segments.reverse ++ above := by
  induction segments generalizing above with
  | nil => rfl
  | cons s ss ih =>
    rw [List.foldl_cons, (descend_of_isWordChar (h s List.mem_cons_self)).2.2,
      ih fun t ht => h t (List.mem_cons_of_mem _ ht)]
    simp

/-- Segments of words make up a path as they stand. -/
theorem pathOf_words {segments : List (List Char)} (hne : segments ≠ [])
    (h : ∀ s ∈ segments, ∀ c ∈ s, isWordChar c = true) :
    pathOf (segments.flatMap ('/' :: ·)) = segments.flatMap ('/' :: ·) := by
  have hslash : ∀ s ∈ segments, '/' ∉ s := fun s hs hmem => absurd (h s hs _ hmem) (by decide)
  have hslashed : (segments.flatMap ('/' :: ·)).map (fun c => if c = '\\' then '/' else c) =
      segments.flatMap ('/' :: ·) := by
    refine (List.map_congr_left fun c hc => ?_).trans (List.map_id _)
    obtain ⟨s, hs, hc⟩ := List.mem_flatMap.mp hc
    refine if_neg ?_
    rintro rfl
    rcases List.mem_cons.mp hc with hc | hc
    · exact absurd hc (by decide)
    · exact absurd (h s hs _ hc) (by decide)
  have hresolve : resolve segments = segments := by
    unfold resolve
    rw [foldl_descend h]
    cases hlast : segments.getLast? with
    | none => exact absurd (List.getLast?_eq_none_iff.mp hlast) hne
    | some s =>
      obtain ⟨hup, hhere, -⟩ := @descend_of_isWordChar [] s (h s (List.mem_of_getLast? hlast))
      simp [hup, hhere]
  unfold pathOf
  rw [hslashed]
  cases segments with
  | nil => exact absurd rfl hne
  | cons s ss =>
    simp only [List.flatMap_cons, List.cons_append]
    rw [Text.splitAll_flatMap hslash, hresolve]
    rfl

/-! ## Addresses of services -/

/-- What the addresses below begin with. -/
def opening : List Char := "http://".toList

/-- The address of a service: `http://`, a host, perhaps a port, segments of letters and digits, and
slashes at its end. -/
structure Base where
  host : List Char
  port : Option Nat
  segments : List (List Char)
  slashes : Nat
  isHost_host : isHost host = true
  port_lt : ∀ n ∈ port, n < 65536
  isAlphanum_segments : ∀ s ∈ segments, s ≠ [] ∧ ∀ c ∈ s, c.isAlphanum = true

namespace Base

def authority (b : Base) : List Char := b.host ++ portChars b.port

/-- The path, without the slashes at its end. -/
def path (b : Base) : List Char := b.segments.flatMap ('/' :: ·)

def address (b : Base) : List Char := opening ++ (b.authority ++ b.path)

def text (b : Base) : String := String.ofList (b.address ++ List.replicate b.slashes '/')

variable {b : Base}

theorem isWordChar_segments {s : List Char} (h : s ∈ b.segments) : ∀ c ∈ s, isWordChar c = true :=
  fun c hc => by simp [isWordChar, (b.isAlphanum_segments s h).2 c hc]

theorem isInner_of_mem_authority {c : Char} (h : c ∈ b.authority) : IsInner c ∧ isSlash c = false := by
  rcases List.mem_append.mp h with h | h
  · exact isInner_of_mem_host b.isHost_host h
  · unfold portChars at h
    split at h
    · rcases List.mem_cons.mp h with rfl | h
      · decide
      · exact isInner_of_isDigit (Numeral.isDigit_of_mem_digits h)
    · simp at h

theorem authority_ne_nil : b.authority ≠ [] := by
  have hhost : b.host ≠ [] := by
    rcases isHost_cases b.isHost_host with ⟨groups, hgroups, -⟩ | ⟨hne, -⟩
    · simp [hgroups]
    · exact hne
  simp [authority, hhost]

theorem getLast?_address : b.address.getLast? ≠ .some '/' := by
  have hbare : (b.authority ++ b.path).getLast? ≠ .some '/' := by
    intro hlast
    rcases List.eq_nil_or_concat b.segments with hnil | ⟨ss, s, hs⟩
    · rw [path, hnil, List.flatMap_nil, List.append_nil] at hlast
      exact absurd (isInner_of_mem_authority (List.mem_of_getLast? hlast)).2 (by decide)
    · obtain ⟨hne, hword⟩ := b.isAlphanum_segments s (by simp [hs])
      have hpath : b.path = ss.flatMap ('/' :: ·) ++ '/' :: s := by simp [path, hs]
      rw [hpath, ← List.append_assoc, List.getLast?_append, List.getLast?_cons_of_ne_nil hne] at hlast
      cases hc : s.getLast? with
      | none => exact hne (List.getLast?_eq_none_iff.mp hc)
      | some c =>
        rw [hc] at hlast
        cases hlast
        exact absurd (hword _ (List.mem_of_getLast? hc)) (by decide)
  have hne : b.authority ++ b.path ≠ [] := by simp [authority_ne_nil]
  rw [address, List.getLast?_append]
  cases hc : (b.authority ++ b.path).getLast? with
  | none => exact absurd (List.getLast?_eq_none_iff.mp hc) hne
  | some c =>
    rw [hc] at hbare
    exact hbare

theorem trimSlashes_text : Text.trimSlashes b.text.toList = b.address := by
  rw [text, String.toList_ofList, Text.trimSlashes_append_replicate,
    Text.trimSlashes_of_getLast? getLast?_address]

end Base

/-- An address without a query is read as its host and its path. -/
theorem ofChars?_of_authority {authority rest : List Char} {origin : Origin}
    (hne : authority ≠ []) (hinner : ∀ c ∈ authority, IsInner c ∧ isSlash c = false)
    (hrest : ∀ c ∈ rest, IsInner c) (hslash : ∀ c, rest.head? = .some c → isSlash c = true)
    (horigin : origin? "http" authority = .some origin) :
    ofChars? (opening ++ (authority ++ rest)) = .some ⟨origin, pathOf rest, .none, .none⟩ := by
  have hbody : ∀ c ∈ authority ++ rest, IsInner c := by
    intro c hc
    rcases List.mem_append.mp hc with hc | hc
    · exact (hinner c hc).1
    · exact hrest c hc
  have hopening : ∀ c ∈ opening, IsInner c := forall_mem_of_all (by decide)
  have hclean : clean (opening ++ (authority ++ rest)) =
      "http".toList ++ ':' :: ('/' :: '/' :: (authority ++ rest)) := by
    rw [clean_of_isInner]
    · rfl
    · intro c hc
      rcases List.mem_append.mp hc with hc | hc
      · exact hopening c hc
      · exact hbody c hc
  have hslashes : ('/' :: '/' :: (authority ++ rest)).dropWhile isSlash = authority ++ rest := by
    rw [List.dropWhile_cons_of_pos (by decide), List.dropWhile_cons_of_pos (by decide),
      dropWhile_of_head?]
    intro c hc
    obtain ⟨d, ds, rfl⟩ := List.exists_cons_of_ne_nil hne
    cases hc
    exact (hinner _ List.mem_cons_self).2
  have hfragment := @cutAt_of_not_mem '#' _ fun h => (hbody _ h).2.2.1 rfl
  have hquery := @cutAt_of_not_mem '?' _ fun h => (hbody _ h).2.2.2 rfl
  have hnoslash : ∀ c ∈ authority, (!isSlash c) = true := fun c hc => by simp [(hinner c hc).2]
  have hends : ∀ c, rest.head? = .some c → (!isSlash c) = false := fun c hc => by simp [hslash c hc]
  have htake := takeWhile_append_of_head? hnoslash hends
  have hdrop := dropWhile_append_of_head? hnoslash hends
  have hscheme : String.ofList ("http".toList.map Char.toLower) = "http" := by decide
  have hknown : (schemePorts.lookup "http").isNone = false := by decide
  simp only [ofChars?, hclean, Text.splitFirst?_append (by decide : ':' ∉ "http".toList), Option.bind_some,
    hscheme, hknown, hslashes, hfragment, hquery, htake, hdrop, horigin, Option.map_some, Option.map_none]
  rfl

/-- Segments of words follow a host. -/
theorem ofChars?_of_words {b : Base} {origin : Origin} {rest : List Char} {segments : List (List Char)}
    (hsegments : ∀ s ∈ segments, ∀ c ∈ s, isWordChar c = true) (hrest : ∀ c ∈ rest, c = '/')
    (horigin : origin? "http" b.authority = .some origin) :
    ofChars? (opening ++ (b.authority ++ (segments.flatMap ('/' :: ·) ++ rest))) =
      .some ⟨origin, pathOf (segments.flatMap ('/' :: ·) ++ rest), .none, .none⟩ := by
  refine ofChars?_of_authority Base.authority_ne_nil (fun c => Base.isInner_of_mem_authority) ?_ ?_ horigin
  · intro c hc
    rcases List.mem_append.mp hc with hc | hc
    · obtain ⟨s, hs, hc⟩ := List.mem_flatMap.mp hc
      rcases List.mem_cons.mp hc with rfl | hc
      · decide
      · exact (isInner_of_isWordChar (hsegments s hs c hc)).1
    · rw [hrest c hc]
      decide
  · intro c hc
    cases segments with
    | nil =>
      rw [hrest c (List.mem_of_mem_head? hc)]
      rfl
    | cons s ss =>
      cases hc
      rfl

/-- **What is searched for below the address of a service is found there**: where the address itself
leads, below its path. -/
theorem ofChars?_place (b : Base) {place : List (List Char)} (hne : place ≠ [])
    (hplace : ∀ s ∈ place, ∀ c ∈ s, isWordChar c = true) :
    ∃ origin, (ofText? b.text).map Url.origin = .some origin ∧
      ofChars? (Text.trimSlashes b.text.toList ++ place.flatMap ('/' :: ·)) =
        .some ⟨origin, b.path ++ place.flatMap ('/' :: ·), .none, .none⟩ := by
  obtain ⟨port, horigin⟩ := origin?_of_isHost b.isHost_host b.port_lt
  refine ⟨⟨"http", b.host.map Char.toLower, port⟩, ?_, ?_⟩
  · have htext : b.text.toList =
        opening ++ (b.authority ++ (b.segments.flatMap ('/' :: ·) ++ List.replicate b.slashes '/')) := by
      rw [Base.text, String.toList_ofList, Base.address, Base.path]
      simp only [List.append_assoc]
    rw [ofText?, htext, ofChars?_of_words (fun s => Base.isWordChar_segments)
      (fun c => List.eq_of_mem_replicate) horigin]
    rfl
  · have hwords : ∀ s ∈ b.segments ++ place, ∀ c ∈ s, isWordChar c = true := by
      intro s hs
      rcases List.mem_append.mp hs with hs | hs
      · exact Base.isWordChar_segments hs
      · exact hplace s hs
    have hpath : b.path ++ place.flatMap ('/' :: ·) = (b.segments ++ place).flatMap ('/' :: ·) := by
      rw [List.flatMap_append, Base.path]
    have haddress : b.address ++ place.flatMap ('/' :: ·) =
        opening ++ (b.authority ++ ((b.segments ++ place).flatMap ('/' :: ·) ++ [])) := by
      rw [← hpath, Base.address]
      simp only [List.append_assoc, List.append_nil]
    rw [Base.trimSlashes_text, haddress, hpath, ofChars?_of_words hwords (by simp) horigin,
      List.append_nil, pathOf_words (by simp [hne]) hwords]

end Url
end MarketSearch
