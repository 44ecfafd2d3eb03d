/-
Binary numbers in data: what is written is a number of the grammar, and it is
read as a finite number.

A moderate number is written with so few digits before its point, or with so
small an exponent, that the reader gets nowhere near infinity
(`Json.Numeric.exists_float?`); how far the number that is read is from the one
that was written is not said here.
-/
import MarketSearch.Proofs.Shortest
import MarketSearch.Proofs.Writing

namespace MarketSearch

open Binary64

/-! ## Reading -/

namespace Json

theorem two_le_powerOfTen {n : Nat} (hn : n ≠ 0) (hmax : n ≤ 308) : 2 * unit ≤ (powerOfTen n).scaled :=
  two_le_ofNat hn hmax

/-- A number times a power of ten, if it is not too large. -/
def scaledOnce (x : Binary64) (e : Int) : Option Binary64 :=
  if e < 0 then .some (x.div (powerOfTen e.natAbs))
  else if (x.mul (powerOfTen e.natAbs)).isFinite then .some (x.mul (powerOfTen e.natAbs))
  else .none

theorem exists_scaledOnce {x : Binary64} {b : Nat} (hx : AtMost b x) (hb : b ≤ 2 ^ 200) {e : Int}
    (hlow : -308 ≤ e) (hhigh : e ≤ 200) : ∃ y, scaledOnce x e = .some y ∧ y.isFinite = true := by
  unfold scaledOnce
  split
  · have hpower := @two_le_powerOfTen e.natAbs (by omega) (by omega)
    exact ⟨_, rfl, (hx.div hpower (by omega)).isFinite⟩
  · have hlarge : Nat.pow 10 e.natAbs ≤ 10 ^ 200 := Nat.pow_le_pow_right (by decide) (by omega)
    have hpower := (atMost_ofNat (hlarge.trans (by decide +kernel))).mono (show _ ≤ 2 ^ 700 by omega)
    have hproduct : b * 2 ^ 700 ≤ 2 ^ 1000 := (mul_two_pow_lt hb (by decide)).le
    have hfinite := (hx.mul hpower hproduct).isFinite
    exact ⟨_, if_pos hfinite, hfinite⟩

theorem scaleBy_succ (x : Binary64) (e : Int) (fuel : Nat) : scaleBy x e (fuel + 1) =
    if e.natAbs ≤ 308 then scaledOnce x e
    else if x.isZero then .some x
    else if 0 ≤ e then .none
    else scaleBy (x.div (powerOfTen 308)) (e + 308) fuel := rfl

/-- A moderate number is scaled by any power of ten that is not too large: down in steps, up in one. -/
theorem exists_scaleBy {x : Binary64} {b : Nat} (hx : AtMost b x) {e : Int} {fuel : Nat} (hb : b + fuel ≤ 2 ^ 200)
    (hlow : -(308 * (fuel + 1 : Int)) ≤ e) (hhigh : e ≤ 200) :
    ∃ y, scaleBy x e (fuel + 1) = .some y ∧ y.isFinite = true := by
  induction fuel generalizing x b e with rw [scaleBy_succ]
  | zero =>
    rw [if_pos (by omega)]
    exact exists_scaledOnce hx hb (by omega) hhigh
  | succ fuel ih =>
    split
    · exact exists_scaledOnce hx (by omega) (by omega) hhigh
    · split
      · exact ⟨x, rfl, hx.isFinite⟩
      · rw [if_neg (by omega)]
        have hdown := hx.div (two_le_powerOfTen (by decide) (Nat.le_refl _)) (by omega)
        exact ih hdown (by omega) (by push_cast at hlow; omega) (by omega)

theorem takeDigits_lt {n : Nat} (h : n < 2 ^ 64) (cs : List Char) : (takeDigits n cs).1 < 2 ^ 64 := by
  induction cs generalizing n with
  | nil => exact h
  | cons c cs ih =>
    unfold takeDigits
    dsimp only
    split
    · next hnext => exact ih hnext
    · exact h

/-- No digit of a short number is left. -/
theorem takeDigits_left {n k : Nat} (h : n < 10 ^ k) {cs : List Char} (hcs : ∀ c ∈ cs, c.isDigit = true)
    (hk : k + cs.length ≤ 19) : (takeDigits n cs).2 = 0 := by
  induction cs generalizing n k with
  | nil => rfl
  | cons c cs ih =>
    obtain ⟨hc, hcs⟩ := List.forall_mem_cons.mp hcs
    rw [List.length_cons] at hk
    have hrange : 48 ≤ c.toNat ∧ c.toNat ≤ 57 := Char.isDigit_iff_toNat.mp hc
    have hnext : n * 10 + (c.toNat - 48) < 10 ^ (k + 1) := by
      rw [Nat.pow_succ]
      omega
    have hfits : n * 10 + (c.toNat - 48) < Nat.pow 2 64 :=
      hnext.trans_le ((Nat.pow_le_pow_right (by decide) (by omega : k + 1 ≤ 19)).trans (by decide))
    rw [takeDigits, if_pos hfits]
    exact ih hnext hcs (by omega)

namespace Numeric

/-- What is made of the digits and the exponent of a numeral. -/
def finish (t : Numeric) (n : Nat) (e : Int) : Option Binary64 :=
  (scaleBy (.ofNat n) (max e (-2400)) 8).map (applySign t.negative)

theorem isFinite_applySign {x : Binary64} (h : x.isFinite = true) (negative : Bool) :
    (applySign negative x).isFinite = true := by
  cases x with
  | finite => cases negative <;> rfl
  | infinite | nan => cases h

theorem exists_finish (t : Numeric) {n : Nat} (hn : n < 2 ^ 64) {e : Int} (he : e ≤ 200) :
    ∃ y, t.finish n e = .some y ∧ y.isFinite = true := by
  have hnumber := (atMost_ofNat (hn.le.trans (by decide +kernel))).mono (show _ ≤ 2 ^ 100 by omega)
  obtain ⟨x, hx, hfinite⟩ := @exists_scaleBy _ _ hnumber (max e (-2400)) 7 (by decide) (by omega) (by omega)
  exact ⟨_, Option.map_eq_some_iff.mpr ⟨x, hx, rfl⟩, isFinite_applySign hfinite _⟩

/-- A numeral is finished with the digits that fit, and with the tens of those that do not and of its
exponent. -/
theorem float?_eq (t : Numeric) : t.float? =
    let whole := takeDigits 0 t.whole
    let fraction := t.fraction.getD []
    let digits := takeDigits whole.1 fraction
    let shift : Int := (whole.2 : Int) - ((fraction.length - digits.2 : Nat))
    match t.exponent with
    | .none => t.finish digits.1 shift
    | .some (down, ds) =>
      if exponentLimit < (Numeral.value? 10 ds).getD 0 then
        if digits.1 = 0 ∨ down then .some (applySign t.negative .zero) else .none
      else if down then t.finish digits.1 (shift - (Numeral.value? 10 ds).getD 0)
      else t.finish digits.1 (shift + (Numeral.value? 10 ds).getD 0) := rfl

/-- A numeral with few digits before the point and no large exponent is read as a finite number. -/
theorem exists_float? {t : Numeric} (hdigits : ∀ c ∈ t.whole, c.isDigit = true) (hlength : t.whole.length ≤ 19)
    (hexponent : ∀ ds, t.exponent = .some (false, ds) → (Numeral.value? 10 ds).getD 0 ≤ 200) :
    ∃ y, t.float? = .some y ∧ y.isFinite = true := by
  have hleft := takeDigits_left (n := 0) (k := 0) (by decide) hdigits (by omega)
  have hn := takeDigits_lt (takeDigits_lt (Nat.two_pow_pos 64) t.whole) (t.fraction.getD [])
  rw [float?_eq]
  dsimp only
  rw [hleft]
  generalize (takeDigits (takeDigits 0 t.whole).1 (t.fraction.getD [])).1 = n at hn ⊢
  cases hexp : t.exponent with
  | none => exact exists_finish t hn (by omega)
  | some x =>
    obtain ⟨down, ds⟩ := x
    cases down with
    | true =>
      dsimp only
      split
      · rw [if_pos (.inr rfl)]
        exact ⟨_, rfl, isFinite_applySign rfl _⟩
      · exact exists_finish t hn (by omega)
    | false =>
      have hsmall := hexponent ds hexp
      dsimp only
      rw [if_neg (Nat.not_lt.mpr (hsmall.trans (by decide)))]
      exact exists_finish t hn (by omega)

/-- A numeral with a point or an exponent is no whole number. -/
theorem value?_of_marked {t : Numeric} (h : t.fraction ≠ .none ∨ t.exponent ≠ .none) :
    t.value? = t.float?.map .float := by
  unfold value?
  cases hfraction : t.fraction with
  | some ds => rfl
  | none =>
    cases hexponent : t.exponent with
    | some e => rfl
    | none => simp [hfraction, hexponent] at h

end Numeric
end Json

/-! ## Writing -/

namespace Binary64

open Grammar

/-- Digits that a number of the grammar may have before its point. -/
structure IsWhole (cs : List Char) : Prop where
  ne_nil : cs ≠ []
  all_isDigit : cs.all Char.isDigit = true
  eq_zero : cs.head? = .some '0' → cs = ['0']

theorem all_isDigit_of_sublist {cs : List Char} {n : Nat} (h : cs.Sublist (Numeral.digits n)) :
    cs.all Char.isDigit = true :=
  List.all_eq_true.mpr fun _ hc => Numeral.isDigit_of_mem_digits (h.subset hc)

theorem all_isDigit_replicate (k : Nat) : (List.replicate k '0').all Char.isDigit = true := by
  refine List.all_eq_true.mpr fun c hc => ?_
  rw [List.eq_of_mem_replicate hc]
  rfl

/-- The front of a number that is not zero. -/
theorem isWhole_take {n k : Nat} (hn : n ≠ 0) (hk : k ≠ 0) : IsWhole ((Numeral.digits n).take k) := by
  refine ⟨by simp [hk, Numeral.digits_ne_nil], all_isDigit_of_sublist (List.take_sublist ..), fun hhead => ?_⟩
  rw [List.head?_take, if_neg hk] at hhead
  exact absurd hhead (Numeral.head?_digits hn)

/-- A number that is not zero, with zeros after it. -/
theorem isWhole_append_zeros {n : Nat} (hn : n ≠ 0) (zeros : Nat) :
    IsWhole (Numeral.digits n ++ List.replicate zeros '0') := by
  refine ⟨by simp [Numeral.digits_ne_nil], ?_, fun hhead => ?_⟩
  · rw [List.all_append, all_isDigit_of_sublist (.refl _), all_isDigit_replicate]
    rfl
  · rw [List.head?_append_of_ne_nil _ (Numeral.digits_ne_nil n)] at hhead
    exact absurd hhead (Numeral.head?_digits hn)

/-- Digits of a number that is not zero, around a point. -/
theorem placePoint_spec {n : Nat} (hn : n ≠ 0) (point : Int) :
    IsWhole (placePoint (Numeral.digits n) point).1 ∧
      (placePoint (Numeral.digits n) point).1.length ≤ max 1 point.toNat ∧
      (placePoint (Numeral.digits n) point).2.all Char.isDigit = true := by
  unfold placePoint
  split
  · refine ⟨⟨by simp, rfl, fun _ => rfl⟩, by simp, ?_⟩
    rw [List.all_append, all_isDigit_replicate, all_isDigit_of_sublist (.refl _)]
    rfl
  · split
    · refine ⟨isWhole_append_zeros hn _, ?_, rfl⟩
      rw [List.length_append, List.length_replicate]
      omega
    · exact ⟨isWhole_take hn (by omega), (List.length_take_le _ _).trans (Nat.le_max_right ..),
        all_isDigit_of_sublist (List.drop_sublist ..)⟩

/-- The number of the grammar is written like the binary number, and is read as a finite one. -/
def IsNumberOf (x : Binary64) (t : Number) : Prop :=
  t.chars = x.dataChars ∧ ∃ y : Binary64, y.isFinite = true ∧ t.parts.value? = .some (.float y)

theorem isNumberOf {x : Binary64} {t : Number} (hchars : t.chars = x.dataChars) (hlength : t.whole.val.length ≤ 19)
    (hmarked : t.fraction ≠ .none ∨ t.exponent ≠ .none)
    (hexponent : ∀ e ∈ t.exponent, e.sign = .some '-' ∨ (Numeral.value? 10 e.digits.val).getD 0 ≤ 200) :
    IsNumberOf x t := by
  have hparts : t.parts.fraction ≠ .none ∨ t.parts.exponent ≠ .none := by simpa [Number.parts] using hmarked
  have hup : ∀ ds, t.parts.exponent = .some (false, ds) → (Numeral.value? 10 ds).getD 0 ≤ 200 := by
    intro ds hds
    obtain ⟨e, he, heq⟩ := Option.map_eq_some_iff.mp hds
    obtain ⟨hsign, rfl⟩ := Prod.mk.inj heq
    exact (hexponent e he).resolve_left (by simpa using hsign)
  obtain ⟨y, hy, hfinite⟩ := Json.Numeric.exists_float? (List.all_eq_true.mp t.whole.property.2) hlength hup
  refine ⟨hchars, y, hfinite, ?_⟩
  rw [Json.Numeric.value?_of_marked hparts, hy]
  rfl

theorem exists_number_of_zero (negative : Bool) (p : Nat) : ∃ t, IsNumberOf (.finite negative 0 p) t := by
  have hdigits : ['0'] ≠ [] ∧ ['0'].all Char.isDigit = true := by decide
  refine ⟨⟨negative, ⟨['0'], hdigits⟩, .some ⟨['0'], hdigits⟩, .none, fun _ => rfl⟩, ?_⟩
  exact isNumberOf (by cases negative <;> rfl) (Nat.le_add_left 1 18) (.inl (by simp)) (by simp)

theorem signChars_eq (negative : Bool) : Number.signChars negative = signChars negative := rfl

/-- Digits around a point, at least one on either side. -/
theorem exists_number_of_placed {x : Binary64} {negative : Bool} {whole rest : List Char} (hwhole : IsWhole whole)
    (hlength : whole.length ≤ 19) (hrest : rest.all Char.isDigit = true)
    (hchars : x.dataChars = signChars negative ++ whole ++ '.' :: (if rest.isEmpty then ['0'] else rest)) :
    ∃ t, IsNumberOf x t := by
  have hfraction : (if rest.isEmpty then ['0'] else rest) ≠ [] ∧
      (if rest.isEmpty then ['0'] else rest).all Char.isDigit = true := by
    split
    · decide
    · next hne => exact ⟨by simpa using hne, hrest⟩
  refine ⟨⟨negative, ⟨whole, hwhole.ne_nil, hwhole.all_isDigit⟩, .some ⟨_, hfraction⟩, .none, hwhole.eq_zero⟩, ?_⟩
  refine isNumberOf ?_ hlength (.inl (by simp)) (by simp)
  rw [hchars]
  simp [Number.chars, Number.fractionChars, Number.exponentChars, signChars_eq]

/-- The digits after the first, after a point if there are any. -/
theorem exists_fraction {tail : List Char} (h : tail.all Char.isDigit = true) :
    ∃ fraction, Number.fractionChars fraction = if tail.isEmpty then [] else '.' :: tail := by
  cases tail with
  | nil => exact ⟨.none, rfl⟩
  | cons c cs => exact ⟨.some ⟨c :: cs, by simp, h⟩, rfl⟩

theorem exists_exponent {e : Int} (he : e ≤ 200) : ∃ exponent : Exponent,
    exponent.chars = 'e' :: (if e < 0 then '-' else '+') :: Numeral.digits e.natAbs ∧
      (exponent.sign = .some '-' ∨ (Numeral.value? 10 exponent.digits.val).getD 0 ≤ 200) := by
  by_cases hdown : e < 0
  · refine ⟨⟨'e', .some '-', Json.digitsOf e.natAbs, .inl rfl, by simp⟩, ?_, .inl rfl⟩
    rw [if_pos hdown]
    rfl
  · refine ⟨⟨'e', .some '+', Json.digitsOf e.natAbs, .inl rfl, by simp⟩, ?_, .inr ?_⟩
    · rw [if_neg hdown]
      rfl
    · rw [Json.digitsOf, Numeral.value?_digits, Option.getD_some]
      omega

/-- One digit before the point, if there is a point, and an exponent. -/
theorem exists_number_of_powered {x : Binary64} {negative : Bool} {n : Nat} (hn : n ≠ 0) {e : Int} (he : e ≤ 200)
    (hchars : x.dataChars = signChars negative ++ (Numeral.digits n).take 1 ++
      (if ((Numeral.digits n).drop 1).isEmpty then [] else '.' :: (Numeral.digits n).drop 1) ++
        'e' :: (if e < 0 then '-' else '+') :: Numeral.digits e.natAbs) : ∃ t, IsNumberOf x t := by
  have hwhole := @isWhole_take n 1 hn (by decide)
  obtain ⟨fraction, hfraction⟩ := exists_fraction (all_isDigit_of_sublist ((Numeral.digits n).drop_sublist 1))
  obtain ⟨exponent, hexponent, hsmall⟩ := exists_exponent he
  refine ⟨⟨negative, ⟨_, hwhole.ne_nil, hwhole.all_isDigit⟩, fraction, .some exponent, hwhole.eq_zero⟩, ?_⟩
  refine isNumberOf ?_ ((List.length_take_le _ _).trans (by decide)) (.inr (by simp)) (by simpa using hsmall)
  rw [hchars, ← hfraction, ← hexponent]
  simp [Number.chars, Number.exponentChars, signChars_eq]

theorem dataChars_of_ne_zero (negative : Bool) {m : Nat} (hm : m ≠ 0) (p : Nat) :
    dataChars (.finite negative m p) =
      let x := shortest .even m p
      let ds := Numeral.digits x.digits
      if -5 ≤ x.lead - 1 ∧ x.lead - 1 < 16 then
        signChars negative ++ (placePoint ds x.lead).1 ++
          '.' :: (if (placePoint ds x.lead).2.isEmpty then ['0'] else (placePoint ds x.lead).2)
      else
        signChars negative ++ ds.take 1 ++ (if (ds.drop 1).isEmpty then [] else '.' :: ds.drop 1) ++
          'e' :: (if x.lead - 1 < 0 then '-' else '+') :: Numeral.digits (x.lead - 1).natAbs := by
  obtain ⟨m, rfl⟩ := Nat.exists_eq_add_one_of_ne_zero hm
  have hpoint : ∀ lead : Int, lead - 1 + 1 = lead := fun lead => Int.sub_add_cancel lead 1
  simp only [dataChars, ScaledDigits.lead, hpoint]
  rfl

/-- **A moderate number is written as a number of the grammar.** -/
theorem exists_number {x : Binary64} (h : AtMost (2 ^ 200) x) : ∃ t, IsNumberOf x t := by
  cases x with
  | infinite | nan => exact absurd h.isFinite Bool.false_ne_true
  | finite negative m p =>
    by_cases hm : m = 0
    · subst hm
      exact exists_number_of_zero negative p
    have hne := digits_shortest_ne_zero .even hm p
    have hlead := lead_shortest_le .even hm h.scaled_le
    have hchars := dataChars_of_ne_zero negative hm p
    dsimp only at hchars
    split at hchars
    · next hplaced =>
      obtain ⟨hwhole, hlength, hrest⟩ := placePoint_spec hne (shortest .even m p).lead
      exact exists_number_of_placed hwhole (by omega) hrest hchars
    · exact exists_number_of_powered hne (by omega) hchars

end Binary64
end MarketSearch
