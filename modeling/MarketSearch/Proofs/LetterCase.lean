/-
Letter case: which texts are read as a name.

Names are compared in upper or in lower case, by the mappings of Unicode, and
some letters beyond ASCII have a letter of ASCII as their other case.  In upper
case these are the dotless i and the long s, and the letters that become
several, of which two then stand together that no name has together
(`Text.upperForms_cases`).  In lower case it is the sign of the kelvin, and no
name has a k (`Text.lowerForms_cases`).  So a text has a name for its other case
when this is so letter by letter (`Text.flatMap_upperForms_eq_iff`,
`Text.lowerFrom_eq_iff`), by induction on the text.
-/
import Mathlib
import MarketSearch.Proofs.Except
import MarketSearch.Proofs.Lists
import MarketSearch.Sorting

namespace MarketSearch
namespace Text

variable {c : Char} {cs w front : List Char} {parts : List (List Char)}

/-! ## Characters beyond ASCII -/

def IsBeyond (c : Char) : Prop := 0x80 ≤ c.toNat

instance (c : Char) : Decidable (IsBeyond c) := inferInstanceAs (Decidable (0x80 ≤ c.toNat))

theorem IsBeyond.toLower_eq (h : IsBeyond c) : c.toLower = c := by
  refine Char.toLower_eq_of_not_isUpper fun hupper => ?_
  have hascii : 65 ≤ c.toNat ∧ c.toNat ≤ 90 := by simpa [Char.isUpper, UInt32.le_iff_toNat_le] using hupper
  have hbeyond : 0x80 ≤ c.toNat := h
  omega

theorem isBeyond_toLower_iff : IsBeyond c.toLower ↔ IsBeyond c := by
  refine ⟨fun h => ?_, fun h => h.toLower_eq.symm ▸ h⟩
  by_contra hc
  have hascii : ∀ n < 0x80, ¬IsBeyond (Char.ofNat n).toLower := by decide
  have hlower := hascii c.toNat (Nat.not_le.mp hc)
  rw [Char.ofNat_toNat] at hlower
  exact hlower h

/-- All partners of the run are beyond ASCII. -/
def CaseRun.StaysBeyond (r : CaseRun) : Prop :=
  0x80 ≤ r.first + r.shift ∧
    (r.last + r.shift < 0xD800 ∨ 0xDFFF < r.first + r.shift ∧ r.last + r.shift < 0x110000)

instance (r : CaseRun) : Decidable r.StaysBeyond := inferInstanceAs (Decidable (_ ∧ _))

theorem CaseRun.StaysBeyond.isBeyond {r : CaseRun} {n m : Nat} (h : r.StaysBeyond) (hm : r.partner? n = .some m) :
    IsBeyond (Char.ofNat m) := by
  unfold partner? at hm
  split at hm
  · next hn =>
    cases hm
    obtain ⟨hlow, hvalid⟩ := h
    have hchar : ((n : Int) + r.shift).toNat.isValidChar := by
      simp only [Nat.isValidChar]
      omega
    rw [IsBeyond, Char.toNat_ofNat, if_pos hchar]
    omega
  · cases hm

/-- Something that names are without: a character beyond ASCII, or one of some parts. -/
def IsForeign (parts : List (List Char)) (cs : List Char) : Prop :=
  (∃ c ∈ cs, IsBeyond c) ∨ ∃ part ∈ parts, part <:+: cs

-- only what is in the lists is tried; the instance that would be found goes through all characters
instance (parts : List (List Char)) (cs : List Char) : Decidable (IsForeign parts cs) :=
  @instDecidableOr _ _ (List.decidableBEx IsBeyond cs) (List.decidableBEx (· <:+: cs) parts)

theorem IsForeign.of_mem (hc : c ∈ cs) (h : IsBeyond c) : IsForeign parts cs := .inl ⟨c, hc, h⟩

theorem IsForeign.of_infix (h : IsForeign parts front) (hcs : front <:+: cs) : IsForeign parts cs := by
  rcases h with ⟨c, hc, hbeyond⟩ | ⟨part, hpart, hinfix⟩
  · exact .of_mem (hcs.subset hc) hbeyond
  · exact .inr ⟨part, hpart, hinfix.trans hcs⟩

theorem IsForeign.append (h : IsForeign parts front) (rest : List Char) : IsForeign parts (front ++ rest) :=
  h.of_infix (List.prefix_append ..).isInfix

theorem IsForeign.cons (h : IsForeign parts cs) (c : Char) : IsForeign parts (c :: cs) :=
  h.of_infix (List.suffix_cons ..).isInfix

/-- A run of one letter. -/
def CaseRun.IsOf (r : CaseRun) (c : Char) : Prop := r.first = c.toNat ∧ r.last = c.toNat

instance (r : CaseRun) (c : Char) : Decidable (r.IsOf c) := inferInstanceAs (Decidable (_ ∧ _))

theorem CaseRun.IsOf.eq {r : CaseRun} {d : Char} {m : Nat} (h : r.IsOf d) (hm : r.partner? c.toNat = .some m) :
    c = d := by
  obtain ⟨hfirst, hlast⟩ := h
  unfold partner? at hm
  split at hm
  · exact Char.toNat_inj.mp (by omega)
  · cases hm

/-- By tables of which every entry leads to something foreign, so is the other case of a character beyond ASCII. -/
theorem isForeign_caseForms {expansions : List (Nat × List Nat)} {runs : List CaseRun} (hc : IsBeyond c)
    (hexpansions : ∀ p ∈ expansions, IsForeign parts (p.2.map Char.ofNat))
    (hruns : ∀ r ∈ runs, ∀ m, r.partner? c.toNat = .some m → IsForeign parts [Char.ofNat m]) :
    IsForeign parts (caseForms expansions runs c) := by
  unfold caseForms
  cases hexpansion : expansions.lookup c.toNat with
  | some ns =>
    obtain ⟨_, _, hmem, -⟩ := List.lookup_eq_some_iff.mp hexpansion
    exact hexpansions (c.toNat, ns) (by simp [hmem])
  | none =>
    cases hpartner : runs.findSome? (·.partner? c.toNat) with
    | none => exact .of_mem (List.mem_singleton_self c) hc
    | some m =>
      obtain ⟨r, hr, hm⟩ := List.exists_of_findSome?_eq_some hpartner
      exact hruns r hr m hm

/-! ## Upper case -/

/-- The small letter of ASCII with the same capital, where there is one: the dotless i and the long s are read as
i and s. -/
def smallLetter (c : Char) : Char :=
  if c = '\u0131' then 'i' else if c = '\u017f' then 's' else c.toLower

theorem toLower_smallLetter (c : Char) : (smallLetter c).toLower = smallLetter c := by
  unfold smallLetter
  split
  · rfl
  · split
    · rfl
    · exact Char.toLower_toLower_eq_toLower c

/-- What the sharp s and the ligatures begin with in upper case. -/
def joined : List (List Char) := [['S', 'S'], ['F', 'F'], ['F', 'I'], ['F', 'L'], ['S', 'T']]

theorem isForeign_of_mem_upperExpansions : ∀ p ∈ upperExpansions, IsForeign joined (p.2.map Char.ofNat) :=
  forall_mem_of_all (by decide +kernel)

theorem upperRuns_cases : ∀ r ∈ upperRuns, r.StaysBeyond ∨ r.IsOf '\u0131' ∨ r.IsOf '\u017f' :=
  forall_mem_of_all (by decide +kernel)

/-- In upper case, a character is the capital of its small letter, or is foreign to names. -/
theorem upperForms_cases (c : Char) :
    (¬IsBeyond (smallLetter c) ∧ upperForms c = [(smallLetter c).toUpper]) ∨
    (IsBeyond (smallLetter c) ∧ IsForeign joined (upperForms c)) := by
  by_cases hi : c = '\u0131'
  · subst hi
    decide +kernel
  by_cases hs : c = '\u017f'
  · subst hs
    decide +kernel
  rw [smallLetter, if_neg hi, if_neg hs, isBeyond_toLower_iff]
  by_cases hc : IsBeyond c
  · refine .inr ⟨hc, ?_⟩
    rw [upperForms, if_neg (Nat.not_lt.mpr hc)]
    refine isForeign_caseForms hc isForeign_of_mem_upperExpansions fun r hr m hm => ?_
    rcases upperRuns_cases r hr with hbeyond | hone | hone
    · exact .of_mem (List.mem_singleton_self _) (hbeyond.isBeyond hm)
    · exact absurd (hone.eq hm) hi
    · exact absurd (hone.eq hm) hs
  · exact .inl ⟨hc, by rw [upperForms, if_pos (Nat.not_le.mp hc), Char.toUpper_toLower_eq_toUpper]⟩

/-- **A text has a name for its upper case** when it has letter by letter. -/
theorem flatMap_upperForms_eq_iff (hw : ¬IsForeign joined w) (hupper : ∀ c ∈ w, c.toUpper = c) :
    cs.flatMap upperForms = w ↔ cs.map smallLetter = w.map Char.toLower := by
  induction cs generalizing w with
  | nil => simp [eq_comm]
  | cons c cs ih =>
    rw [List.flatMap_cons, List.map_cons]
    rcases upperForms_cases c with ⟨-, hforms⟩ | ⟨hbeyond, hforeign⟩
    · cases w with
      | nil => simp [hforms]
      | cons d w =>
        have hd := hupper d List.mem_cons_self
        have hhead : (smallLetter c).toUpper = d ↔ smallLetter c = d.toLower := by
          constructor
          · rintro rfl
            rw [Char.toLower_toUpper_eq_toLower, toLower_smallLetter]
          · intro h
            rw [h, Char.toUpper_toLower_eq_toUpper, hd]
        have hrest := ih (fun h => hw (h.cons d)) fun x hx => hupper x (List.mem_cons_of_mem _ hx)
        rw [hforms, List.singleton_append, List.map_cons, List.cons.injEq, List.cons.injEq, hhead, hrest]
    -- neither the form nor the letter itself stands in a name
    · refine ⟨fun h => absurd (h ▸ hforeign.append _) hw, fun h => ?_⟩
      have hmem : smallLetter c ∈ w.map Char.toLower := h ▸ List.mem_cons_self
      obtain ⟨d, hd, hlower⟩ := List.mem_map.mp hmem
      exact absurd (.of_mem hd (isBeyond_toLower_iff.mp (hlower ▸ hbeyond))) hw

/-- Names in capitals that some text has for its upper case just when it has letter by letter. -/
def IsCapital (w : String) : Prop := ¬IsForeign joined w.toList ∧ w.toList.map Char.toUpper = w.toList

instance (w : String) : Decidable (IsCapital w) := inferInstanceAs (Decidable (_ ∧ _))

theorem IsCapital.toUpper_eq_iff {w : String} (hw : IsCapital w) (s : String) :
    toUpper s = w ↔ s.toList.map smallLetter = w.toList.map Char.toLower := by
  rw [toUpper, ← String.toList_inj, String.toList_ofList]
  exact flatMap_upperForms_eq_iff hw.1 (List.map_inj_left.mp (hw.2.trans (List.map_id _).symm))

/-! ## Lower case -/

theorem isForeign_of_mem_lowerExpansions : ∀ p ∈ lowerExpansions, IsForeign [['k']] (p.2.map Char.ofNat) := by
  decide +kernel

theorem lowerRuns_cases : ∀ r ∈ lowerRuns, r.StaysBeyond ∨
    r.IsOf '\u212a' ∧ r.partner? '\u212a'.toNat = .some 'k'.toNat :=
  forall_mem_of_all (by decide +kernel)

/-- In lower case, a character is what it is within ASCII, or is foreign to names. -/
theorem lowerForms_cases (c : Char) :
    (¬IsBeyond c ∧ lowerForms c = [c.toLower]) ∨ (IsBeyond c ∧ IsForeign [['k']] (lowerForms c)) := by
  by_cases hc : IsBeyond c
  · refine .inr ⟨hc, ?_⟩
    rw [lowerForms, if_neg (Nat.not_lt.mpr hc)]
    refine isForeign_caseForms hc isForeign_of_mem_lowerExpansions fun r hr m hm => ?_
    rcases lowerRuns_cases r hr with hbeyond | ⟨hkelvin, hk⟩
    · exact .of_mem (List.mem_singleton_self _) (hbeyond.isBeyond hm)
    · obtain rfl := hkelvin.eq hm
      cases hk.symm.trans hm
      rw [Char.ofNat_toNat]
      decide
  · exact .inl ⟨hc, by rw [lowerForms, if_pos (Nat.not_le.mp hc)]⟩

/-- The same of a character in a text, where a sigma has two forms. -/
theorem exists_lowerFrom_cons (before : List Char) (c : Char) (cs : List Char) :
    ∃ front, lowerFrom before (c :: cs) = front ++ lowerFrom (c :: before) cs ∧
      ((¬IsBeyond c ∧ front = [c.toLower]) ∨ (IsBeyond c ∧ IsForeign [['k']] front)) := by
  refine ⟨_, rfl, ?_⟩
  split
  · next hsigma =>
    subst hsigma
    refine .inr ⟨by decide, ?_⟩
    split <;> decide
  · exact lowerForms_cases c

/-- **A text has a name for its lower case** when it has letter by letter, whatever came before it. -/
theorem lowerFrom_eq_iff (hw : ¬IsForeign [['k']] w) {before : List Char} :
    lowerFrom before cs = w ↔ cs.map Char.toLower = w := by
  induction cs generalizing before w with
  | nil => rfl
  | cons c cs ih =>
    obtain ⟨front, hlower, hfront⟩ := exists_lowerFrom_cons before c cs
    rw [hlower, List.map_cons]
    rcases hfront with ⟨-, rfl⟩ | ⟨hbeyond, hforeign⟩
    · cases w with
      | nil => simp
      | cons d w => rw [List.singleton_append, List.cons.injEq, List.cons.injEq, ih fun h => hw (h.cons d)]
    · refine ⟨fun h => absurd (h ▸ hforeign.append _) hw, fun h => ?_⟩
      have hmem : c.toLower ∈ w := h ▸ List.mem_cons_self
      exact absurd (.of_mem hmem (isBeyond_toLower_iff.mpr hbeyond)) hw

/-- The same for small letters. -/
def IsSmall (w : String) : Prop := ¬IsForeign [['k']] w.toList ∧ w.toList.map Char.toLower = w.toList

instance (w : String) : Decidable (IsSmall w) := inferInstanceAs (Decidable (_ ∧ _))

theorem IsSmall.toLower_eq_iff {w : String} (hw : IsSmall w) (s : String) :
    toLower s = w ↔ s.toList.map Char.toLower = w.toList.map Char.toLower := by
  rw [toLower, ← String.toList_inj, String.toList_ofList, hw.2]
  exact lowerFrom_eq_iff hw.1

end Text

/-! ## Names -/

/-- A text is read as a value when its letters are those of one of its names, and otherwise is told to be none. -/
structure ReadsNames {α : Type} (read : String → Except UnknownName α) (enumeration : String)
    (letters : String → List Char) (names : α → List String) : Prop where
  accepts : ∀ s x, read s = .ok x ↔ ∃ name ∈ names x, letters s = name.toList
  refuses : ∀ s, (∀ x, ∀ name ∈ names x, letters s ≠ name.toList) → read s = .error ⟨enumeration, s⟩

section

variable {α : Type} [DecidableEq α] {read : String → Except UnknownName α} {enumeration : String}
  {letters : String → List Char} {names : α → List String}

/-- A table of spellings, of which each is in the case that texts are brought to. -/
theorem ReadsNames.of_lookup (fold : String → String) (spellings : List (String × α))
    (hread : ∀ s, read s = (spellings.lookup (fold s)).elim (.error ⟨enumeration, s⟩) .ok)
    (hnodup : (spellings.map Prod.fst).Nodup)
    (hfold : ∀ p ∈ spellings, ∀ s, fold s = p.1 ↔ letters s = p.1.toList.map Char.toLower)
    (hnames : ∀ x, names x = (spellings.filter (·.2 = x)).map fun p => String.ofList (p.1.toList.map Char.toLower)) :
    ReadsNames read enumeration letters names := by
  have hlookup : ∀ s x, spellings.lookup (fold s) = .some x ↔ ∃ name ∈ names x, letters s = name.toList := by
    intro s x
    rw [lookup_eq_some_iff_mem hnodup, hnames]
    simp only [List.mem_map, List.mem_filter, decide_eq_true_eq]
    constructor
    · intro hmem
      exact ⟨_, ⟨_, ⟨hmem, rfl⟩, rfl⟩, by rw [String.toList_ofList]; exact (hfold _ hmem s).mp rfl⟩
    · rintro ⟨_, ⟨⟨spelling, y⟩, ⟨hmem, rfl⟩, rfl⟩, hletters⟩
      rw [String.toList_ofList] at hletters
      rw [(hfold _ hmem s).mpr hletters]
      exact hmem
  refine ⟨fun s x => ?_, fun s hnone => ?_⟩
  · rw [← hlookup, hread]
    cases spellings.lookup (fold s) <;> simp
  · rw [hread]
    cases h : spellings.lookup (fold s) with
    | none => rfl
    | some x =>
      obtain ⟨name, hname, hletters⟩ := (hlookup s x).mp h
      exact absurd hletters (hnone x name hname)

end

open Text

theorem Source.isCapital_labelled : ∀ p ∈ labelled, IsCapital p.1 := forall_mem_of_all (by decide)

theorem SortDirection.isCapital_spellings : ∀ p ∈ spellings, IsCapital p.1 := forall_mem_of_all (by decide)

theorem SortKey.isSmall_spellings : ∀ p ∈ spellings, IsSmall p.1 := forall_mem_of_all (by decide)

theorem Source.ofText?_eq (s : String) :
    ofText? s = (labelled.lookup (toUpper s)).elim (.error ⟨"Source", s⟩) .ok := by
  unfold ofText?
  cases labelled.lookup (toUpper s) <;> rfl

theorem SortDirection.ofText?_eq (s : String) :
    ofText? s = (spellings.lookup (toUpper (trimmed s))).elim (.error ⟨"SortDirection", s⟩) .ok := by
  unfold ofText?
  cases spellings.lookup (toUpper (trimmed s)) <;> rfl

theorem SortKey.ofText?_eq (s : String) :
    ofText? s = (spellings.lookup (toLower s)).elim (.error ⟨"SortKey", s⟩) .ok := by
  unfold ofText?
  cases spellings.lookup (toLower s) <;> rfl

/-- The names of a direction. -/
def SortDirection.names : SortDirection → List String
  | .ascending => ["asc", "ascending"]
  | .descending => ["desc", "descending"]

/-- The names of a key, of which only the first is written. -/
def SortKey.names : SortKey → List String
  | .price => ["price"]
  | .name => ["name"]
  | .discountRate => ["discount_rate", "discountrate", "discount"]

/-- **Names are read in any letter case.** A text is a source, a direction or a key just when it is one of the
names of it letter by letter: with blanks around it only for a direction, in the letter cases of ASCII, and for
sources and directions with the dotless i and the long s besides, whose capitals are I and S. All else is
refused, and told as it was given. -/
theorem names_are_read_in_any_letter_case :
    ReadsNames Source.ofText? "Source" (fun s => s.toList.map smallLetter) (fun x => [x.key]) ∧
    ReadsNames SortDirection.ofText? "SortDirection" (fun s => (trim s.toList).map smallLetter) SortDirection.names ∧
    ReadsNames SortKey.ofText? "SortKey" (fun s => s.toList.map Char.toLower) SortKey.names := by
  refine ⟨?source, ?direction, ?key⟩
  case source =>
    refine .of_lookup toUpper Source.labelled Source.ofText?_eq (by decide) ?_ ?_
    · exact fun p hp => (Source.isCapital_labelled p hp).toUpper_eq_iff
    · intro x
      cases x <;> decide
  case direction =>
    refine .of_lookup (fun s => toUpper (trimmed s)) SortDirection.spellings SortDirection.ofText?_eq (by decide) ?_ ?_
    · intro p hp s
      rw [(SortDirection.isCapital_spellings p hp).toUpper_eq_iff, trimmed, String.toList_ofList]
    · intro x
      cases x <;> decide
  case key =>
    refine .of_lookup toLower SortKey.spellings SortKey.ofText?_eq (by decide) ?_ ?_
    · exact fun p hp => (SortKey.isSmall_spellings p hp).toLower_eq_iff
    · intro x
      cases x <;> decide

/-- The letter cases of ASCII are not all: sources are read with the dotless i, and directions with the long s. -/
theorem dotless_i_and_long_s_are_read :
    Source.ofText? "t\u0131k\u0131" = .ok .tiki ∧
    ¬ReadsNames Source.ofText? "Source" (fun s => s.toList.map Char.toLower) (fun x => [x.key]) ∧
    SortDirection.ofText? "de\u017fc" = .ok .descending ∧
    ¬ReadsNames SortDirection.ofText? "SortDirection" (fun s => (trim s.toList).map Char.toLower)
      SortDirection.names := by
  have hsource : Source.ofText? "t\u0131k\u0131" = .ok .tiki := toOption_eq_some_iff.mp (by decide +kernel)
  have hdirection : SortDirection.ofText? "de\u017fc" = .ok .descending := toOption_eq_some_iff.mp (by decide +kernel)
  refine ⟨hsource, fun h => ?_, hdirection, fun h => ?_⟩
  · obtain ⟨name, hname, hletters⟩ := (h.accepts _ _).mp hsource
    cases List.mem_singleton.mp hname
    exact absurd hletters (by decide)
  · obtain ⟨name, hname, hletters⟩ := (h.accepts _ _).mp hdirection
    have hnone : ∀ name ∈ SortDirection.names .descending, (trim "de\u017fc".toList).map Char.toLower ≠ name.toList :=
      forall_mem_of_all (by decide)
    exact hnone name hname hletters

end MarketSearch
