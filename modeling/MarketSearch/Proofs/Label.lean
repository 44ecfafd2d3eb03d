/-
Discount labels read back.

A label is digits between marks: dashes before them, percent signs after them,
and blanks around each (`LabelMarks`).  Every label is marks around what the
reader keeps of it (`LazadaListing.exists_around`), and digits are kept whatever
the marks around them are (`LazadaListing.labelDigits_around`).  One mark comes
off after the other, from the outside in, and at each step what is left is still
blanks, marks and digits.

In an item that is well-formed with some label, another label changes the rate
of the product and nothing else, or has the item refused
(`LazadaListing.map_label`).
-/
import MarketSearch.Proofs.ListedPrice
import MarketSearch.Proofs.Trimming

namespace MarketSearch

/-! ## Runs of one character -/

namespace Text

variable {mark : Char} {outer inner rest : List Char}

theorem exists_replicate (mark : Char) (cs : List Char) :
    ∃ n, cs = List.replicate n mark ++ cs.dropWhile (· == mark) := by
  refine ⟨(cs.takeWhile (· == mark)).length, ?_⟩
  have hmarks : cs.takeWhile (· == mark) = List.replicate (cs.takeWhile (· == mark)).length mark :=
    List.eq_replicate_of_mem fun c hc => by simpa using List.all_eq_true.mp List.all_takeWhile c hc
  rw [← hmarks, List.takeWhile_append_dropWhile]

theorem exists_replicate_end (mark : Char) (cs : List Char) :
    ∃ n, cs = (cs.reverse.dropWhile (· == mark)).reverse ++ List.replicate n mark := by
  obtain ⟨n, h⟩ := exists_replicate mark cs.reverse
  exact ⟨n, by simpa using congrArg List.reverse h⟩

/-- What is left begins neither with a blank nor with the mark. -/
def StartsBare (mark : Char) (rest : List Char) : Prop :=
  ∀ c, rest.head? = .some c → isBlank c = false ∧ c ≠ mark

theorem dropWhile_mark (hmark : isBlank mark = false) (hinner : inner.all isBlank = true)
    (hrest : StartsBare mark rest) (n : Nat) :
    (List.replicate n mark ++ (inner ++ rest)).dropWhile (· == mark) = inner ++ rest := by
  refine dropWhile_append_of_head? (fun c hc => by simp [List.eq_of_mem_replicate hc]) fun c hc => ?_
  have hne : c ≠ mark := by
    cases inner with
    | nil => exact (hrest c hc).2
    | cons b inner =>
      cases hc
      rintro rfl
      simp [hmark] at hinner
  simpa using hne

/-- Blanks in front of marks come off; where there are no marks, those that follow come off as well. -/
theorem exists_trimStart (hmark : isBlank mark = false) (houter : outer.all isBlank = true)
    (hinner : inner.all isBlank = true) (hrest : StartsBare mark rest) (n : Nat) :
    ∃ left : Blanks, trimStart (outer ++ (List.replicate n mark ++ (inner ++ rest))) =
      List.replicate n mark ++ (left.val ++ rest) := by
  cases n with
  | zero =>
    refine ⟨⟨[], rfl⟩, ?_⟩
    have hall : (outer ++ inner).all isBlank = true := by rw [List.all_append, houter, hinner]; rfl
    have htrim := dropWhile_append_of_head? (List.all_eq_true.mp hall) fun c hc => (hrest c hc).1
    simpa [trimStart] using htrim
  | succ n =>
    refine ⟨⟨inner, hinner⟩, dropWhile_append_of_head? (List.all_eq_true.mp houter) fun c hc => ?_⟩
    cases hc
    exact hmark

/-- What is left ends neither with a blank nor with the mark. -/
def EndsBare (mark : Char) (rest : List Char) : Prop := StartsBare mark rest.reverse

theorem all_reverse_blank (h : inner.all isBlank = true) : inner.reverse.all isBlank = true := by simpa using h

theorem dropWhile_mark_end (hmark : isBlank mark = false) (hinner : inner.all isBlank = true)
    (hrest : EndsBare mark rest) (n : Nat) :
    ((rest ++ (inner ++ List.replicate n mark)).reverse.dropWhile (· == mark)).reverse = rest ++ inner := by
  have h := congrArg List.reverse (dropWhile_mark hmark (all_reverse_blank hinner) hrest n)
  simpa using h

theorem exists_trimEnd (hmark : isBlank mark = false) (houter : outer.all isBlank = true)
    (hinner : inner.all isBlank = true) (hrest : EndsBare mark rest) (n : Nat) :
    ∃ right : Blanks, trimEnd (rest ++ (inner ++ (List.replicate n mark ++ outer))) =
      rest ++ (right.val ++ List.replicate n mark) := by
  obtain ⟨⟨right, hright⟩, h⟩ := exists_trimStart hmark (all_reverse_blank houter) (all_reverse_blank hinner) hrest n
  refine ⟨⟨right.reverse, all_reverse_blank hright⟩, ?_⟩
  simpa [trimEnd, trimStart] using congrArg List.reverse h

end Text

/-! ## Labels -/

/-- What may stand around the digits of a discount label. -/
structure LabelMarks where
  before : Text.Blanks
  dashes : Nat
  lead : Text.Blanks
  trail : Text.Blanks
  percents : Nat
  after : Text.Blanks

namespace LabelMarks

/-- The characters of a label with these marks. -/
def chars (k : LabelMarks) (digits : List Char) : List Char :=
  k.before.val ++ (List.replicate k.dashes '-' ++ (k.lead.val ++ (digits ++
    (k.trail.val ++ (List.replicate k.percents '%' ++ k.after.val)))))

def around (k : LabelMarks) (digits : List Char) : String := String.ofList (k.chars digits)

end LabelMarks

namespace LazadaListing

variable {cs digits : List Char}

/-- Without blanks, dashes and percent signs, and with something left. -/
structure IsBare (cs : List Char) : Prop where
  ne_nil : cs ≠ []
  bare : ∀ c ∈ cs, Text.isBlank c = false ∧ c ≠ '-' ∧ c ≠ '%'

theorem IsBare.startsBare (h : IsBare cs) (rest : List Char) : Text.StartsBare '-' (cs ++ rest) := by
  intro c hc
  rw [List.head?_append_of_ne_nil _ h.ne_nil] at hc
  have hbare := h.bare c (List.mem_of_mem_head? hc)
  exact ⟨hbare.1, hbare.2.1⟩

theorem IsBare.endsBare (h : IsBare cs) (rest : List Char) : Text.EndsBare '%' (rest ++ cs) := by
  intro c hc
  rw [List.reverse_append, List.head?_append_of_ne_nil _ (by simpa using h.ne_nil)] at hc
  have hbare := h.bare c (List.mem_reverse.mp (List.mem_of_mem_head? hc))
  exact ⟨hbare.1, hbare.2.2⟩

/-- **Every label is marks around what is kept of it.** -/
theorem exists_around (label : String) : ∃ k : LabelMarks, label = k.around (labelDigits label) := by
  obtain ⟨before, after, hlabel⟩ := Text.exists_trim label.toList
  obtain ⟨dashes, hdashes⟩ := Text.exists_replicate '-' (Text.trim label.toList)
  obtain ⟨percents, hpercents⟩ := Text.exists_replicate_end '%' ((Text.trim label.toList).dropWhile (· == '-'))
  obtain ⟨lead, trail, hdigits⟩ := Text.exists_trim
    (((Text.trim label.toList).dropWhile (· == '-')).reverse.dropWhile (· == '%')).reverse
  refine ⟨⟨before, dashes, lead, trail, percents, after⟩, ?_⟩
  rw [LabelMarks.around, ← String.toList_inj, String.toList_ofList, LabelMarks.chars]
  conv_lhs => rw [hlabel, hdashes, hpercents, hdigits]
  simp only [labelDigits, List.append_assoc]

/-- **Digits are kept**, whatever the marks around them are. -/
theorem labelDigits_around (h : IsBare digits) (k : LabelMarks) : labelDigits (k.around digits) = digits := by
  obtain ⟨left, hstart⟩ := Text.exists_trimStart (by decide) k.before.property k.lead.property
    (h.startsBare (k.trail.val ++ (List.replicate k.percents '%' ++ k.after.val))) k.dashes
  obtain ⟨right, hend⟩ := Text.exists_trimEnd (by decide) k.after.property k.trail.property
    (h.endsBare (List.replicate k.dashes '-' ++ left.val)) k.percents
  simp only [List.append_assoc] at hend
  have htrim : Text.trim (k.chars digits) = List.replicate k.dashes '-' ++ (left.val ++ (digits ++
      (right.val ++ List.replicate k.percents '%'))) := by
    rw [Text.trim, LabelMarks.chars, hstart, hend]
  have hdashes := Text.dropWhile_mark (by decide) left.property
    (h.startsBare (right.val ++ List.replicate k.percents '%')) k.dashes
  have hpercents := Text.dropWhile_mark_end (by decide) right.property (h.endsBare left.val) k.percents
  simp only [List.append_assoc] at hpercents
  rw [labelDigits, LabelMarks.around, String.toList_ofList, htrim, hdashes, hpercents]
  exact Text.trim_padded left.property right.property h.ne_nil fun c hc => (h.bare c hc).1

end LazadaListing

/-! ## Rates -/

namespace Decimal

variable {d : Decimal} {c : Char}

theorem isDigit_of_mem_padded (h : c ∈ d.padded) : c.isDigit = true := by
  rcases List.mem_append.mp h with h | h
  · rw [List.eq_of_mem_replicate h]
    rfl
  · exact Numeral.isDigit_of_mem_digits h

/-- The characters of a decimal that is not negative are digits and a point. -/
theorem isDigit_or_point_of_mem_chars (hsign : d.negative = false) (h : c ∈ d.chars) : c.isDigit = true ∨ c = '.' := by
  have htail : c ∈ (if d.scale = 0 then [] else '.' :: d.padded.drop (d.padded.length - d.scale)) →
      c = '.' ∨ c ∈ d.padded.drop (d.padded.length - d.scale) := by
    split <;> simp
  rw [chars_eq, hsign, if_neg (by simp), List.nil_append] at h
  rcases List.mem_append.mp h with h | h
  · exact .inl (isDigit_of_mem_padded (List.mem_of_mem_take h))
  · rcases htail h with h | h
    · exact .inr h
    · exact .inl (isDigit_of_mem_padded (List.mem_of_mem_drop h))

theorem IsNormal.chars_ne_nil (h : d.IsNormal) : d.chars ≠ [] := by
  intro hnil
  have hread := ofText?_text h.unsigned_zero
  rw [ofText?, text, String.toList_ofList, hnil] at hread
  cases hread

theorem IsNormal.negative_eq_false (h : d.IsNormal) (hunits : 0 ≤ d.units) : d.negative = false := by
  cases hzero : d.isZero with
  | true => exact h.unsigned_zero (by simpa [isZero] using hzero)
  | false =>
    have hsign := mt isNegative_iff.mp (Int.not_lt.mpr hunits)
    simpa [isNegative, hzero] using hsign

end Decimal

namespace DiscountRate

variable {d : Decimal} {r : DiscountRate}

/-- The digits that a rate is displayed with, before the percent sign. -/
def IsShownBy (r : DiscountRate) (digits : List Char) : Prop := r.text.toList = digits ++ ['%']

theorem isShownBy_iff {digits : List Char} : r.IsShownBy digits ↔ r.percent.chars = digits := by
  have htext : r.text.toList = r.percent.chars ++ ['%'] := by
    rw [text, String.toList_append, Decimal.text, String.toList_ofList]
    rfl
  rw [IsShownBy, htext, List.append_left_inj]

theorem IsValid.isBare_chars (h : r.IsValid) : LazadaListing.IsBare r.percent.chars where
  ne_nil := h.normal.chars_ne_nil
  bare c hc := by
    rcases Decimal.isDigit_or_point_of_mem_chars (h.normal.negative_eq_false h.nonneg) hc with hdigit | rfl
    · refine ⟨Text.isBlank_eq_false hdigit, ?_, ?_⟩ <;> rintro rfl <;> cases hdigit
    · decide

end DiscountRate

namespace LazadaListing

variable {label : String} {d : Decimal} {r : DiscountRate}

/-- What a label says of the rate: nothing is no discount, and anything else is a percentage. -/
theorem rateOf_eq_ok_iff : rateOf (.some label) = .ok r ↔
    (labelDigits label = [] ∧ r = .zero) ∨
    (labelDigits label ≠ [] ∧
      ∃ d, Decimal.ofChars? (labelDigits label) = .some d ∧ DiscountRate.ofDecimal d = .ok r) := by
  have hpercent : percent? label =
      if labelDigits label = [] then .some .zero else Decimal.ofChars? (labelDigits label) := by
    simp only [percent?, List.isEmpty_iff]
  rw [rateOf, hpercent]
  by_cases hempty : labelDigits label = []
  · have hzero : DiscountRate.ofDecimal .zero = .ok .zero := by decide
    simp [hempty, hzero, Listed.checked, eq_comm]
  · rw [if_neg hempty]
    cases Decimal.ofChars? (labelDigits label) <;> simp [hempty, Listed.checked_eq_ok_iff]

/-- **A label is refused** when it says something that is no percentage from 0 to 100. -/
theorem exists_rateOf_iff : (∃ r, rateOf (.some label) = .ok r) ↔
    labelDigits label = [] ∨
      ∃ d, Decimal.ofChars? (labelDigits label) = .some d ∧ 0 ≤ d.value ∧ d.value ≤ 100 := by
  have haccepts : ∀ d, (∃ r, DiscountRate.ofDecimal d = .ok r) ↔ 0 ≤ d.value ∧ d.value ≤ 100 :=
    DiscountRate.isWrapped_kind.isExact.accepts
  simp only [rateOf_eq_ok_iff, ← haccepts]
  by_cases hempty : labelDigits label = []
  · simp [hempty]
  · simp only [hempty, false_and, false_or, ne_eq, not_false_eq_true, true_and]
    exact exists_comm.trans (exists_congr fun d => exists_and_left)

theorem rateOf_around (h : DiscountRate.ofDecimal d = .ok r) (k : LabelMarks) :
    rateOf (.some (k.around r.percent.chars)) = .ok r := by
  have hbare := (DiscountRate.isValid_of_ofDecimal h).isBare_chars
  have hread : (Decimal.ofText? r.percent.text).map DiscountRate.ofDecimal = .some (.ok r) :=
    DiscountRate.isWrapped_kind.isExact.reads_back d r h
  obtain ⟨d', hd', hr⟩ := Option.map_eq_some_iff.mp hread
  rw [Decimal.ofText?, Decimal.text, String.toList_ofList] at hd'
  refine rateOf_eq_ok_iff.mpr (.inr ?_)
  rw [labelDigits_around hbare]
  exact ⟨hbare.ne_nil, d', hd', hr⟩

/-- The listing has another label, and nothing else of the product is different. -/
theorem toProduct_label {l : LazadaListing} {q : Product} (h : l.toProduct = .ok q) (label : String) :
    { l with discount := .some label }.toProduct =
      (rateOf (.some label)).map fun r => { q with discountRate := r } := by
  simp only [toProduct, bind_eq_ok_iff, Listed.checked_eq_ok_iff] at h
  obtain ⟨code, hcode, raw, hraw, price, hprice, rate, -, hq⟩ := h
  obtain ⟨hblank, hname, rfl⟩ := Product.ofDraft_eq_ok_iff.mp hq
  unfold toProduct
  simp only [hcode, hraw, hprice, bind, Except.bind]
  cases rateOf (.some label) with
  | error e => rfl
  | ok r => exact Listed.checked_eq_ok_iff.mpr (Product.ofDraft_eq_ok_iff.mpr ⟨hblank, hname, rfl⟩)

end LazadaListing

/-! ## Items -/

namespace Mapper

open Json LazadaListing

variable {F : Frame} {v : Json} {q : Product}

/-- An item that is well-formed with some label is read with any other one in its place. -/
theorem exists_decode_label (hF : F.IsFor lazada.fieldNames "discount") (homits : F.Omits "discount")
    (h : lazada.map (F.fill "discount" v) = .ok q) :
    ∃ l : LazadaListing, l.toProduct = .ok q ∧ ∀ label,
      layout.decode blank (F.fill "discount" (.str label)) = .ok { l with discount := .some label } := by
  obtain ⟨l, hread, hq⟩ := map_eq_ok_iff_decode.mp h
  have hfield := List.mem_of_getElem? (l := lazada.kind.layout.fields) (i := 8) rfl
  obtain ⟨s, hset, hrest⟩ := Frame.exists_before_gap lazada.isRegular_layout hfield hF homits hread
  obtain ⟨o, -, rfl⟩ := set_field_eq_ok_iff.mp hset
  exact ⟨_, hq, fun label => hrest (.str label) _ rfl⟩

/-- **Another label changes the rate** and nothing else, or has the item refused. -/
theorem map_label (hF : F.IsFor lazada.fieldNames "discount") (homits : F.Omits "discount")
    (h : lazada.map (F.fill "discount" v) = .ok q) (label : String) :
    lazada.map (F.fill "discount" (.str label)) =
      match rateOf (.some label) with
      | .ok r => .ok { q with discountRate := r }
      | .error e => .error (.malformed .lazada e.message) := by
  obtain ⟨l, hq, hread⟩ := exists_decode_label hF homits h
  have hnormalize : lazada.normalize (F.fill "discount" (.str label)) =
      (rateOf (.some label)).map fun r => { q with discountRate := r } := by
    rw [← toProduct_label hq label, Mapper.normalize, LazadaListing.normalize, hread]
    rfl
  rw [map, hnormalize]
  cases rateOf (.some label) <;> rfl

/-- **Rates are read back from their labels.** In an item that is well-formed but for its label, digits that a
rate is displayed with make this the rate of the product, whatever blanks, dashes and percent signs
stand around them, and change nothing else of it. Every label is such marks around what is kept of it,
and has the item dropped as malformed exactly when this is something, and no decimal from 0 to 100. -/
theorem discount_labels_are_read_back (hF : F.IsFor lazada.fieldNames "discount") (homits : F.Omits "discount")
    (h : lazada.map (F.fill "discount" v) = .ok q) :
    (∀ d r, DiscountRate.ofDecimal d = .ok r → ∀ digits, r.IsShownBy digits → ∀ k : LabelMarks,
      lazada.map (F.fill "discount" (.str (k.around digits))) = .ok { q with discountRate := r }) ∧
    ∀ label, (∃ k : LabelMarks, label = k.around (labelDigits label)) ∧
      (lazada.Refuses (F.fill "discount" (.str label)) ↔ labelDigits label ≠ [] ∧
        ¬∃ d, Decimal.ofChars? (labelDigits label) = .some d ∧ 0 ≤ d.value ∧ d.value ≤ 100) := by
  refine ⟨fun d r hr digits hdigits k => ?_, fun label => ⟨exists_around label, ?_⟩⟩
  · obtain rfl := DiscountRate.isShownBy_iff.mp hdigits
    rw [map_label hF homits h, rateOf_around hr k]
  · rw [ne_eq, ← not_or, ← exists_rateOf_iff, Refuses, map_label hF homits h]
    cases rateOf (.some label) <;> simp [source]

/-- A listing of Lazada, all but its label. -/
def pricedLamp : Frame := .named [("itemId", .str "7"), ("name", .str "lamp"), ("price", .str "1")] []

/-- Seven and a half percent between dashes, blanks beyond ASCII and percent signs; and labels that are refused,
for what they say and for how much. -/
theorem discount_labels_of_lamp :
    let q : Product := { Product.draft "7" "lamp" .lazada with price := ⟨⟨false, 1, 0, by decide, by decide⟩⟩ }
    lazada.map (pricedLamp.fill "discount" .null) = .ok q ∧
    lazada.map (pricedLamp.fill "discount" (.str " --\u00a07.5 %%\n")) =
      .ok { q with discountRate := ⟨⟨false, 75, 1, by decide, by decide⟩⟩ } ∧
    lazada.Refuses (pricedLamp.fill "discount" (.str "big sale")) ∧
    lazada.Refuses (pricedLamp.fill "discount" (.str "- -5%")) := by
  intro q
  have hlamp : lazada.map (pricedLamp.fill "discount" .null) = .ok q := toOption_eq_some_iff.mp (by decide)
  have homits : pricedLamp.Omits "discount" := by simp [pricedLamp, Frame.Omits]
  obtain ⟨hread, hlabels⟩ := discount_labels_are_read_back (F := pricedLamp) trivial homits hlamp
  refine ⟨hlamp, ?_, (hlabels "big sale").2.mpr ⟨by decide, ?_⟩, (hlabels "- -5%").2.mpr ⟨by decide, ?_⟩⟩
  · exact hread ⟨false, 750, 2, by decide, by decide⟩ ⟨⟨false, 75, 1, by decide, by decide⟩⟩ (by decide) "7.5".toList
      (DiscountRate.isShownBy_iff.mpr (by decide +kernel))
      ⟨⟨[' '], by decide⟩, 2, ⟨['\u00a0'], by decide⟩, ⟨[' '], by decide⟩, 2, ⟨['\n'], by decide⟩⟩
  · rintro ⟨d, hd, -⟩
    have hnone : Decimal.ofChars? (labelDigits "big sale") = .none := by decide
    rw [hnone] at hd
    cases hd
  · rintro ⟨d, hd, hlow, -⟩
    have hfive : Decimal.ofChars? (labelDigits "- -5%") = .some ⟨true, 5, 0, by decide, by decide⟩ := by decide
    rw [hfive] at hd
    cases hd
    norm_num [Decimal.value] at hlow

end Mapper
end MarketSearch
