/-
What the price in a record is worth.

Each marketplace writes prices in its own way: Shopee counts hundred-thousandths,
Tiki gives a whole number, and Lazada a text of digits with a point perhaps.  In
each, what is written states a number (`Mapper.States`), and the product has
this number for its price: nothing is rounded or cut on the way, so products of
different marketplaces are ordered as the numbers in their records are.

A record that is well-formed but for its price is one with a gap that some price
fills (`Mapper.Takes`).  Fields may be set in any order, so the gap is as good as
filled last (`Frame.exists_before_gap`), and what price is put there makes no
difference to the rest of the product (`Mapper.map_fill`).
-/
import Mathlib.Tactic.Ring
import MarketSearch.Proofs.ExactDecimal
import MarketSearch.Proofs.Grammar
import MarketSearch.Proofs.Shape
import MarketSearch.Product.Order

namespace MarketSearch

/-! ## Filling the gap last -/

namespace Layout

variable {ν ε σ : Type} {l : Layout ν ε σ} {f : Field ν ε σ} {x y : String × ν} {fields after : List (String × ν)}
  {start r : σ}

theorem setAll_append_congr {after after' : List (String × ν)}
    (h : ∀ r r', l.setAll r after = .ok r' ↔ l.setAll r after' = .ok r') (before : List (String × ν)) :
    l.setAll start (before ++ after) = .ok r ↔ l.setAll start (before ++ after') = .ok r := by
  rw [setAll_append, setAll_append]
  exact bind_eq_ok_iff.trans (Iff.trans (by simp only [h]) bind_eq_ok_iff.symm)

theorem Commutes.setAll_swap (hl : l.Commutes) (hne : x.1 ≠ y.1) :
    l.setAll start (x :: y :: fields) = .ok r ↔ l.setAll start (y :: x :: fields) = .ok r := by
  have himp : ∀ {x y : String × ν}, x.1 ≠ y.1 → l.setAll start (x :: y :: fields) = .ok r →
      l.setAll start (y :: x :: fields) = .ok r := by
    intro x y hne h
    obtain ⟨r₁, hx, h⟩ := setAll_cons_eq_ok_iff.mp h
    obtain ⟨r₂, hy, h⟩ := setAll_cons_eq_ok_iff.mp h
    obtain ⟨r₁', hy', hx'⟩ := hl.setNamed hne hx hy
    exact setAll_cons_eq_ok_iff.mpr ⟨r₁', hy', setAll_cons_eq_ok_iff.mpr ⟨r₂, hx', h⟩⟩
  exact ⟨himp hne, himp hne.symm⟩

/-- A field may be set after all others, if these have other names. -/
theorem Commutes.setAll_cons (hl : l.Commutes) (hafter : ∀ y ∈ after, x.1 ≠ y.1) :
    l.setAll start (x :: after) = .ok r ↔ l.setAll start (after ++ [x]) = .ok r := by
  induction after generalizing start with
  | nil => rfl
  | cons y after ih =>
    obtain ⟨hy, hafter⟩ := List.forall_mem_cons.mp hafter
    rw [hl.setAll_swap hy, List.cons_append, setAll_cons_eq_ok_iff, setAll_cons_eq_ok_iff]
    simp only [ih hafter]

theorem IsRegular.setAll_gap (h : l.IsRegular) (hf : f ∈ l.fields) (hafter : ∀ y ∈ after, f.name ≠ y.1)
    (before : List (String × ν)) (v : ν) : l.setAll start (before ++ (f.name, v) :: after) = .ok r ↔
      ∃ s, l.setAll start (before ++ after) = .ok s ∧ f.set v s = .ok r := by
  rw [setAll_append_congr (fun r r' => h.commutes.setAll_cons hafter) before, ← List.append_assoc, setAll_append]
  refine bind_eq_ok_iff.trans (exists_congr fun s => and_congr_right' ?_)
  rw [setAll_cons_eq_ok_iff, h.setNamed_eq hf]
  simp [setAll, pure, Except.pure]

end Layout

namespace Frame

open Json

/-- No other field of the record has the name. -/
def Omits (name : String) : Frame → Prop
  | .named before after => ∀ x ∈ before ++ after, name ≠ x.1
  | .listed _ _ => True

/-- The values of fields in order, with their names, as fields around the one at a place. -/
theorem zip_gap {names : List String} {name : String} {before : List Json} (h : names[before.length]? = .some name)
    (v : Json) (after : List Json) : names.zip (before ++ v :: after) =
      (names.take before.length).zip before ++ (name, v) :: (names.drop (before.length + 1)).zip after := by
  have hlt := (List.getElem?_eq_some_iff.mp h).1
  have hbefore : (names.take before.length).length = before.length := by
    rw [List.length_take]
    omega
  conv_lhs => rw [← take_append_cons_drop h]
  rw [List.zip_append hbefore, List.zip_cons_cons]

theorem notMem_drop_of_nodup {names : List String} {name : String} {i : Nat} (hnodup : names.Nodup)
    (h : names[i]? = .some name) : name ∉ names.drop (i + 1) := by
  rw [← take_append_cons_drop h] at hnodup
  exact (List.nodup_cons.mp (List.nodup_append.mp hnodup).2.1).1

variable {σ : Type} {l : Json.Layout σ} {f : Field Json Mismatch σ} {start r : σ} {F : Frame} {v : Json}

/-- **The gap is as good as filled last**: the rest of a record is read to something, in which the gap is
filled. -/
theorem exists_before_gap (h : l.IsRegular) (hf : f ∈ l.fields) (hF : F.IsFor l.names f.name)
    (homits : F.Omits f.name) (hread : l.decode start (F.fill f.name v) = .ok r) :
    ∃ s, f.set v s = .ok r ∧ ∀ v' r', f.set v' s = .ok r' → l.decode start (F.fill f.name v') = .ok r' := by
  cases F with
  | named before after =>
    have hafter : ∀ y ∈ after, f.name ≠ y.1 := fun y hy => homits y (List.mem_append_right _ hy)
    obtain ⟨s, hs, hset⟩ := (h.setAll_gap hf hafter before v).mp hread
    exact ⟨s, hset, fun v' r' hset' => (h.setAll_gap hf hafter before v').mpr ⟨s, hs, hset'⟩⟩
  | listed before after =>
    have hlength : (before ++ v :: after).length = l.names.length := by
      cases Layout.hasShape_of_decode h hread with
      | array hlength => exact hlength
    have hobject : ∀ v' r', l.decode start (fill f.name v' (.listed before after)) = .ok r' ↔
        l.setAll start ((l.names.take before.length).zip before ++
          (f.name, v') :: (l.names.drop (before.length + 1)).zip after) = .ok r' := by
      intro v' r'
      rw [← zip_gap hF]
      exact Layout.decode_arr_eq_ok_iff h (by simpa using hlength) (.refl _)
    have hafter : ∀ y ∈ (l.names.drop (before.length + 1)).zip after, f.name ≠ y.1 := by
      intro y hy hname
      exact notMem_drop_of_nodup h.nodup hF (hname ▸ (List.of_mem_zip hy).1)
    obtain ⟨s, hs, hset⟩ := (h.setAll_gap hf hafter _ v).mp ((hobject v r).mp hread)
    exact ⟨s, hset, fun v' r' hset' => (hobject v' r').mpr ((h.setAll_gap hf hafter _ v').mpr ⟨s, hs, hset'⟩)⟩

end Frame

/-! ## Numerals with a point -/

namespace Numeral

variable {cs : List Char}

theorem valueFrom_of_isDigit (h : cs.all Char.isDigit = true) (acc : Nat) :
    valueFrom 10 acc cs = .some (Nat.ofDigitChars 10 cs acc) := by
  induction cs generalizing acc with
  | nil => rfl
  | cons c cs ih =>
    obtain ⟨hc, hcs⟩ := Bool.and_eq_true_iff.mp h
    have hrange : 48 ≤ c.toNat ∧ c.toNat ≤ 57 := Char.isDigit_iff_toNat.mp hc
    have hdigit : digitValue? 10 c = .some (c.toNat - 48) := by
      simp only [digitValue?, if_pos hrange]
      exact if_pos (by omega)
    rw [valueFrom, hdigit, Option.bind_some, ih hcs, Nat.ofDigitChars_cons]
    rfl

theorem ofDigitChars_lt (h : cs.all Char.isDigit = true) : Nat.ofDigitChars 10 cs 0 < 10 ^ cs.length := by
  induction cs with
  | nil => simp
  | cons c cs ih =>
    obtain ⟨hc, hcs⟩ := Bool.and_eq_true_iff.mp h
    have hrange : 48 ≤ c.toNat ∧ c.toNat ≤ 57 := Char.isDigit_iff_toNat.mp hc
    have hrest := ih hcs
    have hfirst : 10 ^ cs.length * (c.toNat - 48) ≤ 10 ^ cs.length * 9 := Nat.mul_le_mul_left _ (by omega)
    rw [Nat.ofDigitChars_cons, Nat.ofDigitChars_eq_ofDigitChars_zero, Nat.mul_zero, Nat.zero_add, List.length_cons,
      Nat.pow_succ]
    change 10 ^ cs.length * (c.toNat - 48) + _ < _
    omega

end Numeral

theorem Text.isBlank_eq_false {c : Char} (h : c.isDigit = true) : isBlank c = false := by
  have hrange : 48 ≤ c.toNat ∧ c.toNat ≤ 57 := Char.isDigit_iff_toNat.mp h
  simp [isBlank, blankRanges, inRanges]
  omega

/-- Blanks around a text that has none at its ends are taken off. -/
theorem Text.trim_padded {before cs after : List Char} (hbefore : before.all isBlank = true)
    (hafter : after.all isBlank = true) (hne : cs ≠ []) (hcs : ∀ c ∈ cs, isBlank c = false) :
    trim (before ++ (cs ++ after)) = cs := by
  have hstart : trimStart (before ++ (cs ++ after)) = cs ++ after := by
    refine dropWhile_append_of_head? (List.all_eq_true.mp hbefore) fun c hc => ?_
    rw [List.head?_append_of_ne_nil _ hne] at hc
    exact hcs c (List.mem_of_mem_head? hc)
  have hend : (cs ++ after).reverse.dropWhile isBlank = cs.reverse := by
    rw [List.reverse_append]
    refine dropWhile_append_of_head? (fun c hc => ?_) fun c hc => ?_
    · exact List.all_eq_true.mp hafter c (List.mem_reverse.mp hc)
    · exact hcs c (List.mem_reverse.mp (List.mem_of_mem_head? hc))
  rw [trim, hstart, trimEnd, hend, List.reverse_reverse]

namespace Decimal

theorem exists_ofParts? {m s : Nat} (hm : m < mantissaLimit) (hs : s ≤ maxScale) :
    ∃ d, ofParts? false m s = .some d ∧ d.value = m / 10 ^ s :=
  ⟨⟨false, m, s, hm, hs⟩, dif_pos ⟨hm, hs⟩, by simp [value]⟩

/-- A count of 64 bits is never too large. -/
theorem exists_ofParts?_int {n : Int} {s : Nat} (hlow : 0 ≤ n) (hhigh : n < 2 ^ 64) (hs : s ≤ maxScale) :
    ∃ d, ofParts? (n < 0) n.natAbs s = .some d ∧ d.value = n / 10 ^ s := by
  obtain ⟨k, rfl⟩ := Int.eq_ofNat_of_zero_le hlow
  have hk : k < mantissaLimit := by
    have hlimit : 2 ^ 64 < mantissaLimit := by decide
    omega
  obtain ⟨d, hd, hvalue⟩ := exists_ofParts? hk hs
  have hsign : decide ((k : Int) < 0) = false := by simp
  refine ⟨d, ?_, ?_⟩
  · rw [hsign, Int.natAbs_natCast, hd]
  · rw [hvalue, Int.cast_natCast]

/-- One or more digits, and perhaps a point and one or more digits after it. -/
structure Literal where
  whole : Grammar.Digits
  fraction : Option Grammar.Digits

namespace Literal

/-- The digits after the point. -/
def places (t : Literal) : List Char := t.fraction.elim [] (·.val)

def chars (t : Literal) : List Char := t.whole.val ++ Grammar.Number.fractionChars t.fraction

/-- The number of digits on both sides of the point. -/
def digitCount (t : Literal) : Nat := t.whole.val.length + t.places.length

/-- The number that the literal stands for: the whole digits, and the others as a fraction. -/
def value (t : Literal) : ℚ :=
  Nat.ofDigitChars 10 t.whole.val 0 + Nat.ofDigitChars 10 t.places 0 / 10 ^ t.places.length

variable {t : Literal}

theorem all_isDigit_places (t : Literal) : t.places.all Char.isDigit = true := by
  unfold places
  cases t.fraction with
  | none => rfl
  | some ds => exact ds.property.2

theorem isTail_fractionChars (t : Literal) : IsTail t.places (Grammar.Number.fractionChars t.fraction) := by
  unfold places
  cases t.fraction with
  | none => exact .inr ⟨rfl, rfl⟩
  | some ds => exact .inl rfl

theorem isBlank_eq_false {c : Char} (h : c ∈ t.chars) : Text.isBlank c = false := by
  have hdigits : ∀ ds : Grammar.Digits, c ∈ ds.val → Text.isBlank c = false := fun ds hc =>
    Text.isBlank_eq_false (List.all_eq_true.mp ds.property.2 c hc)
  rcases List.mem_append.mp h with hc | hc
  · exact hdigits _ hc
  · cases hfraction : t.fraction with
    | none => simp [hfraction, Grammar.Number.fractionChars] at hc
    | some ds =>
      rw [hfraction, Grammar.Number.fractionChars] at hc
      rcases List.mem_cons.mp hc with rfl | hc
      · decide
      · exact hdigits ds hc

theorem chars_ne_nil (t : Literal) : t.chars ≠ [] := List.append_ne_nil_of_left_ne_nil t.whole.property.1 _

theorem value_nonneg (t : Literal) : 0 ≤ t.value := by
  unfold value
  positivity

theorem value_eq (t : Literal) :
    t.value = Nat.ofDigitChars 10 (t.whole.val ++ t.places) 0 / 10 ^ t.places.length := by
  have hpow : (10 : ℚ) ^ t.places.length ≠ 0 := by positivity
  rw [Nat.ofDigitChars_append, Nat.ofDigitChars_eq_ofDigitChars_zero, value, Nat.cast_add, Nat.cast_mul, Nat.cast_pow,
    add_div, mul_comm, Nat.cast_ofNat, mul_div_cancel_right₀ _ hpow]

/-- **A literal of at most 28 digits is read as its number.** -/
theorem exists_ofChars? (h : t.digitCount ≤ 28) : ∃ d, ofChars? t.chars = .some d ∧ d.value = t.value := by
  have hdigits : (t.whole.val ++ t.places).all Char.isDigit = true := by
    rw [List.all_append, t.whole.property.2, t.all_isDigit_places]
    rfl
  have hlt : Nat.ofDigitChars 10 (t.whole.val ++ t.places) 0 < mantissaLimit := by
    refine (Numeral.ofDigitChars_lt hdigits).trans_le ?_
    rw [List.length_append]
    exact (Nat.pow_le_pow_right (by decide) h).trans (by decide)
  have hplaces : t.places.length ≤ maxScale := (Nat.le_add_left ..).trans h
  obtain ⟨d, hd, hvalue⟩ := exists_ofParts? hlt hplaces
  have hread := plain?_numeral false t.whole.property.1 t.isTail_fractionChars
    (Numeral.valueFrom_of_isDigit hdigits 0) hlt hplaces
  refine ⟨d, ofChars?_of_plain? (hread.trans hd), ?_⟩
  rw [hvalue, value_eq]

end Literal
end Decimal

/-! ## Prices -/

namespace Price

/-- A decimal that is not below zero is the price it makes. -/
theorem exists_ofDecimal {d : Decimal} (h : 0 ≤ d.value) : ∃ a, ofDecimal d = .ok a ∧ a.amount.value = d.value := by
  obtain ⟨a, ha⟩ := (isWrapped_kind.isExact.accepts d).mpr h
  exact ⟨a, ha, isWrapped_kind.isExact.keeps d a ha⟩

end Price

section

variable {n : Int} {before after : List Char} {t : Decimal.Literal}

theorem ShopeeListing.exists_price (hlow : 0 ≤ n) (hhigh : n < 2 ^ 63) :
    ∃ a, Price.ofDecimal (amountOf n) = .ok a ∧ a.amount.value = n / 100000 := by
  obtain ⟨d, hd, hvalue⟩ := Decimal.exists_ofParts?_int (s := 5) hlow (by omega) (by decide)
  have hamount : amountOf n = d := by rw [amountOf, priceScale, hd, Option.getD_some]
  obtain ⟨a, ha, hx⟩ := Price.exists_ofDecimal (d := d) (by rw [hvalue]; positivity)
  refine ⟨a, by rw [hamount, ha], ?_⟩
  rw [hx, hvalue]
  norm_num

theorem TikiListing.exists_price (hlow : 0 ≤ n) (hhigh : n < 2 ^ 64) :
    ∃ d a, Json.decimal (.int n) = .ok d ∧ Price.ofDecimal d = .ok a ∧ a.amount.value = n := by
  obtain ⟨d, hd, hvalue⟩ := Decimal.exists_ofParts?_int (s := 0) hlow hhigh (by decide)
  have hread : Json.decimal (.int n) = .ok d := by
    have hint : Decimal.ofInt? n = .some d := hd
    simp only [Json.decimal, hint]
  obtain ⟨a, ha, hx⟩ := Price.exists_ofDecimal (d := d) (by rw [hvalue]; positivity)
  refine ⟨d, a, hread, ha, ?_⟩
  rw [hx, hvalue, pow_zero, div_one]

theorem LazadaListing.exists_price (hbefore : before.all Text.isBlank = true) (hafter : after.all Text.isBlank = true)
    (hcount : t.digitCount ≤ 28) :
    ∃ a, priceOf (String.ofList (before ++ (t.chars ++ after))) = .ok a ∧ a.amount.value = t.value := by
  obtain ⟨d, hd, hvalue⟩ := Decimal.Literal.exists_ofChars? hcount
  have htrim : Text.trim (before ++ (t.chars ++ after)) = t.chars :=
    Text.trim_padded hbefore hafter t.chars_ne_nil fun c => Decimal.Literal.isBlank_eq_false
  obtain ⟨a, ha, hx⟩ := Price.exists_ofDecimal (d := d) (by rw [hvalue]; exact t.value_nonneg)
  refine ⟨a, ?_, hx.trans hvalue⟩
  simp only [priceOf, String.toList_ofList, htrim, hd, ha, Listed.checked]

end

/-! ## Products -/

theorem Product.ofDraft_price {p q : Product} (h : ofDraft p = .ok q) (a : Price) :
    ofDraft { p with price := a } = .ok { q with price := a } := by
  obtain ⟨hcode, hname, rfl⟩ := ofDraft_eq_ok_iff.mp h
  exact ofDraft_eq_ok_iff.mpr ⟨hcode, hname, rfl⟩

section

variable {p q : Product} {a : Price}

/-- The listing has another price, and nothing else of the product is different. -/
theorem TikiListing.toProduct_price {l : TikiListing} {d : Decimal} (h : l.toProduct = .ok q)
    (ha : Price.ofDecimal d = .ok a) : { l with price := .some d }.toProduct = .ok { q with price := a } := by
  have hsame : { l with price := .some d }.code? = l.code? := rfl
  unfold toProduct at h ⊢
  rw [hsame]
  cases hcode : l.code? with
  | none =>
    rw [hcode] at h
    cases h
  | some code =>
    rw [hcode] at h
    simp only [bind_eq_ok_iff, Listed.checked_eq_ok_iff] at h ⊢
    obtain ⟨_, hc, _, -, _, -, rate, hrate, hq⟩ := h
    exact ⟨_, hc, d, rfl, a, ha, rate, hrate, Product.ofDraft_price hq a⟩

theorem ShopeeListing.toProduct_price {base : String} {l : ShopeeListing} {n : Int} (h : l.toProduct base = .ok q)
    (ha : Price.ofDecimal (amountOf n) = .ok a) :
    { l with price := .some n }.toProduct base = .ok { q with price := a } := by
  simp only [toProduct, bind_eq_ok_iff, Listed.checked_eq_ok_iff] at h ⊢
  obtain ⟨item, hitem, _, -, _, -, rate, hrate, hq⟩ := h
  exact ⟨item, hitem, n, rfl, a, ha, rate, hrate, Product.ofDraft_price hq a⟩

theorem LazadaListing.toProduct_price {l : LazadaListing} {raw : String} (h : l.toProduct = .ok q)
    (ha : priceOf raw = .ok a) : { l with price := .some raw }.toProduct = .ok { q with price := a } := by
  simp only [toProduct, bind_eq_ok_iff, Listed.checked_eq_ok_iff] at h ⊢
  obtain ⟨code, hcode, _, -, _, -, rate, hrate, hq⟩ := h
  exact ⟨code, hcode, raw, rfl, a, ha, rate, hrate, Product.ofDraft_price hq a⟩

end

/-! ## Records -/

namespace Mapper

open Json

/-- A price in a record of the marketplace states a number. -/
inductive States : Mapper → Json → ℚ → Prop where
  /-- Shopee counts hundred-thousandths, in 64 bits. -/
  | count (base : String) {n : Int} (hlow : 0 ≤ n) (hhigh : n < 2 ^ 63) : States (.shopee base) (.int n) (n / 100000)
  /-- Tiki gives whole numbers, of 64 bits without a sign. -/
  | whole {n : Int} (hlow : 0 ≤ n) (hhigh : n < 2 ^ 64) : States .tiki (.int n) n
  /-- Lazada gives texts, with blanks around them perhaps. -/
  | text {before after : List Char} {t : Decimal.Literal} (hbefore : before.all Text.isBlank = true)
      (hafter : after.all Text.isBlank = true) (hcount : t.digitCount ≤ 28) :
      States .lazada (.str (String.ofList (before ++ (t.chars ++ after)))) t.value

/-- The record is well-formed but for its price: it has no other one, and some price makes a product of it. -/
structure Takes (m : Mapper) (F : Frame) : Prop where
  place : F.IsFor m.fieldNames "price"
  once : F.Omits "price"
  some_price : ∃ p q, m.map (F.fill "price" p) = .ok q

variable {m : Mapper} {F : Frame} {p p' : Json} {q : Product} {x : ℚ} {a : Price}

/-- As the price of a record, the value gives the product this price, and nothing else of it is different. -/
def Prices (m : Mapper) (p : Json) (a : Price) : Prop :=
  ∃ f ∈ m.kind.layout.fields, f.name = "price" ∧ ∀ p' s l q, f.set p' s = .ok l → m.kind.toProduct l = .ok q →
    ∃ l', f.set p s = .ok l' ∧ m.kind.toProduct l' = .ok { q with price := a }

/-- **A price that fills the gap changes nothing else.** -/
theorem map_fill (hplace : F.IsFor m.fieldNames "price") (honce : F.Omits "price") (hp : m.Prices p a)
    (h : m.map (F.fill "price" p') = .ok q) : m.map (F.fill "price" p) = .ok { q with price := a } := by
  obtain ⟨f, hf, hname, hcarry⟩ := hp
  obtain ⟨l, hl, hq⟩ := map_eq_ok_iff_decode.mp h
  rw [← hname] at hplace honce hl ⊢
  obtain ⟨s, hset, hrest⟩ := Frame.exists_before_gap m.isRegular_layout hf hplace honce hl
  obtain ⟨l', hset', hq'⟩ := hcarry p' s l q hset hq
  exact map_eq_ok_iff_decode.mpr ⟨l', hrest p l' hset', hq'⟩

theorem prices_of_field {α : Type} {read : Decoder α} {put : m.kind.Listing → Option α → m.kind.Listing} {d : α}
    (hf : field "price" (optional read) put ∈ m.kind.layout.fields) (hput : ∀ s o o', put (put s o) o' = put s o')
    (hnull : p ≠ .null) (hread : read p = .ok d)
    (hcarry : ∀ l q, m.kind.toProduct l = .ok q → m.kind.toProduct (put l (.some d)) = .ok { q with price := a }) :
    m.Prices p a := by
  refine ⟨_, hf, rfl, fun p' s l q hset hq => ⟨put s (.some d), ?_, ?_⟩⟩
  · exact set_field_eq_ok_iff.mpr ⟨_, optional_eq_ok_iff.mpr (.inr ⟨hnull, d, hread, rfl⟩), rfl⟩
  · obtain ⟨o, -, rfl⟩ := set_field_eq_ok_iff.mp hset
    rw [← hput s o]
    exact hcarry _ q hq

/-- **A price that states a number is this number.** -/
theorem States.exists_prices (h : m.States p x) : ∃ a, m.Prices p a ∧ a.amount.value = x := by
  cases h with
  | @count base n hlow hhigh =>
    obtain ⟨a, ha, hx⟩ := ShopeeListing.exists_price hlow hhigh
    have hread : signed64 (.int n) = .ok n := by
      have hrange : -(Nat.pow 2 63 : Int) ≤ n ∧ n ≤ Nat.pow 2 63 - 1 := by
        simp only [Nat.pow_eq]
        omega
      exact if_pos hrange
    have hfield := List.mem_of_getElem? (l := (shopee base).kind.layout.fields) (i := 4) rfl
    exact ⟨a, prices_of_field hfield (fun _ _ _ => rfl) (by simp) hread fun l q hq =>
      ShopeeListing.toProduct_price hq ha, hx⟩
  | @whole n hlow hhigh =>
    obtain ⟨d, a, hread, ha, hx⟩ := TikiListing.exists_price hlow hhigh
    have hfield := List.mem_of_getElem? (l := tiki.kind.layout.fields) (i := 4) rfl
    exact ⟨a, prices_of_field hfield (fun _ _ _ => rfl) (by simp) hread fun l q hq =>
      TikiListing.toProduct_price hq ha, hx⟩
  | @text before after t hbefore hafter hcount =>
    obtain ⟨a, ha, hx⟩ := LazadaListing.exists_price hbefore hafter hcount
    have hfield := List.mem_of_getElem? (l := lazada.kind.layout.fields) (i := 3) rfl
    exact ⟨a, prices_of_field hfield (fun _ _ _ => rfl) (by simp) rfl fun l q hq =>
      LazadaListing.toProduct_price hq ha, hx⟩

/-- What states a number fills the gap with a price that is the number, whatever filled it before. -/
theorem Takes.exists_price (hF : m.Takes F) (hp : m.States p x) : ∃ a : Price, a.amount.value = x ∧
    ∀ p' q, m.map (F.fill "price" p') = .ok q → m.map (F.fill "price" p) = .ok { q with price := a } := by
  obtain ⟨a, ha, hx⟩ := hp.exists_prices
  exact ⟨a, hx, fun p' q h => map_fill hF.place hF.once ha h⟩

end Mapper

/-- **Prices are the numbers in the records**, and products are ordered as the numbers are. -/
theorem listed_prices_are_exact {m : Mapper} {F : Frame} {p : Json} {x : ℚ} (hF : m.Takes F) (hp : m.States p x) :
    ∃ q, m.map (F.fill "price" p) = .ok q ∧ q.price.amount.value = x ∧
      (∀ p' q', m.map (F.fill "price" p') = .ok q' → q = { q' with price := q.price }) ∧
      ∀ (m' : Mapper) (F' : Frame) (p' : Json) (x' : ℚ) (q' : Product), m'.Takes F' → m'.States p' x' →
        m'.map (F'.fill "price" p') = .ok q' → Product.compareKey .price q q' = compare x x' := by
  obtain ⟨p₀, q₀, h₀⟩ := hF.some_price
  obtain ⟨a, hx, ha⟩ := hF.exists_price hp
  refine ⟨_, ha p₀ q₀ h₀, hx, fun p' q' h => ?_, fun m' F' p' x' q' hF' hp' h => ?_⟩
  · exact Except.ok.inj ((ha p₀ q₀ h₀).symm.trans (ha p' q' h))
  · obtain ⟨b, hx', hb⟩ := hF'.exists_price hp'
    have hq' : q' = { q' with price := b } := Except.ok.inj (h.symm.trans (hb p' q' h))
    rw [hq', Product.compareKey, Price.compare, Decimal.compare_eq_compare_value, hx, hx']

namespace Mapper

open Json

/-- A listing of Lazada, and the fields of one of Tiki in order, but for their prices. -/
def lamp : Frame := .named [("itemId", .str "7"), ("name", .str "lamp")] []

def bulb : Frame := .listed [.null, .str "8", .str "bulb", .null] [.null, .null, .null, .null, .null]

/-- A price with zeros at either end. -/
def twelveFifty : Decimal.Literal := ⟨⟨['0', '1', '2'], by decide⟩, .some ⟨['5', '0'], by decide⟩⟩

theorem takes_lamp : lazada.Takes lamp where
  place := trivial
  once := by simp [lamp, Frame.Omits]
  some_price := by
    refine ⟨.str "0", { Product.draft "7" "lamp" .lazada with price := ⟨.zero⟩ }, ?_⟩
    exact toOption_eq_some_iff.mp (by decide)

theorem takes_bulb : tiki.Takes bulb where
  place := rfl
  once := trivial
  some_price := by
    refine ⟨.int 0, { Product.draft "8" "bulb" .tiki with price := ⟨.zero⟩ }, ?_⟩
    exact toOption_eq_some_iff.mp (by decide)

end Mapper

/-- Of two records of different marketplaces the one with the greater number is the dearer. -/
theorem listed_prices_of_lamp_and_bulb :
    ∃ q q', Mapper.lazada.map (Mapper.lamp.fill "price" (.str " 012.50\n")) = .ok q ∧ q.price.amount.value = 25 / 2 ∧
      Mapper.tiki.map (Mapper.bulb.fill "price" (.int 12)) = .ok q' ∧ q'.price.amount.value = 12 ∧
      Product.compareKey .price q q' = .gt := by
  have hlamp : Mapper.lazada.States (.str " 012.50\n") (25 / 2) := by
    have hvalue : Mapper.twelveFifty.value = 25 / 2 := by
      have hwhole : Nat.ofDigitChars 10 ['0', '1', '2'] 0 = 12 := by decide
      have hplaces : Nat.ofDigitChars 10 ['5', '0'] 0 = 50 := by decide
      simp only [Mapper.twelveFifty, Decimal.Literal.value, Decimal.Literal.places, Option.elim, hwhole, hplaces]
      norm_num
    have htext : String.ofList ([' '] ++ (Mapper.twelveFifty.chars ++ ['\n'])) = " 012.50\n" := by decide
    rw [← hvalue, ← htext]
    exact .text (by decide) (by decide) (by decide)
  have hbulb : Mapper.tiki.States (.int 12) 12 := by
    exact_mod_cast Mapper.States.whole (n := 12) (by decide) (by decide)
  obtain ⟨q, hq, hx, -, horder⟩ := listed_prices_are_exact Mapper.takes_lamp hlamp
  obtain ⟨q', hq', hx', -⟩ := listed_prices_are_exact Mapper.takes_bulb hbulb
  refine ⟨q, q', hq, hx, hq', hx', ?_⟩
  rw [horder _ _ _ _ q' Mapper.takes_bulb hbulb hq', compare_gt_iff_gt]
  norm_num

end MarketSearch
