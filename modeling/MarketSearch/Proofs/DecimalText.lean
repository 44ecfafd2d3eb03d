/-
Decimals written and read: the characters of a decimal are read as the decimal
(`Decimal.ofText?_text`), so decimals of different parts have different texts
(`Decimal.text_inj`).

Both follow from what reading does with digits (`Decimal.readPlain_append`): as
long as their value fits a mantissa and there are places left after the point,
they are taken as they are and nothing is rounded.  This holds of the digits of
any numeral, whether it was written by this library or not.
-/
import MarketSearch.Decimal.Reader
import MarketSearch.Proofs.Numeral

namespace MarketSearch

/-! ## Digits -/

namespace Numeral

theorem le_of_valueFrom {base acc n : Nat} {cs : List Char} (hbase : 0 < base)
    (h : valueFrom base acc cs = .some n) : acc ≤ n := by
  induction cs generalizing acc with
  | nil =>
    cases h
    exact Nat.le_refl _
  | cons c cs ih =>
    obtain ⟨d, -, hrest⟩ := Option.bind_eq_some_iff.mp h
    have hacc : acc ≤ base * acc := Nat.le_mul_of_pos_left acc hbase
    have hn := ih hrest
    omega

theorem valueFrom_replicate_zero (k : Nat) : valueFrom 10 0 (List.replicate k '0') = .some 0 := by
  induction k with
  | zero => rfl
  | succ k ih => exact ih

theorem valueFrom_digits (n : Nat) : valueFrom 10 0 (digits n) = .some n := by
  have h := value?_digits n
  rw [value?, if_neg (by simpa using digits_ne_nil n)] at h
  exact h

end Numeral

namespace Decimal

open Numeral

variable {c : Char} {d n : Nat} {cs ds whole fraction tail : List Char}

/-! ## Reading digits -/

theorem ne_of_digitValue? {mark : Char} (hmark : digitValue? 10 mark = .none) (h : digitValue? 10 c = .some d) :
    c ≠ mark := by
  intro hc
  rw [hc, hmark] at h
  cases h

/-- A digit that fits is taken into the mantissa. -/
theorem readPlain_cons {r : Reading} (hc : digitValue? 10 c = .some d) (hfits : r.mantissa * 10 + d < mantissaLimit)
    (hscale : r.pointed = true → r.scale < maxScale) (cs : List Char) :
    readPlain r (c :: cs) =
      readPlain ⟨r.mantissa * 10 + d, r.scale + r.pointed.toNat, r.pointed, true⟩ cs := by
  have hpoint : c ≠ '.' := ne_of_digitValue? rfl hc
  have hline : c ≠ '_' := ne_of_digitValue? rfl hc
  have hlarge : ¬ mantissaLimit ≤ r.mantissa * 10 + d := by omega
  rw [readPlain]
  simp only [hpoint, hline, false_and, if_false, hc, Option.bind_some, hlarge, or_false]
  cases hp : r.pointed with
  | false => rfl
  | true =>
    have hplaces := hscale hp
    rw [if_pos rfl, if_neg (by omega)]
    rfl

/-- **Digits are taken as they are**, if their value fits and there are places for them. -/
theorem readPlain_append {r : Reading} (h : valueFrom 10 r.mantissa ds = .some n) (hn : n < mantissaLimit)
    (hscale : r.pointed = true → r.scale + ds.length ≤ maxScale) (cs : List Char) :
    readPlain r (ds ++ cs) =
      readPlain ⟨n, r.scale + r.pointed.toNat * ds.length, r.pointed, r.started || !ds.isEmpty⟩ cs := by
  induction ds generalizing r with
  | nil =>
    cases h
    simp
  | cons c ds ih =>
    obtain ⟨d, hc, hrest⟩ := Option.bind_eq_some_iff.mp h
    rw [Nat.mul_comm] at hrest
    have hle := le_of_valueFrom (by decide) hrest
    simp only [List.length_cons] at hscale
    rw [List.cons_append, readPlain_cons hc (by omega) (fun hp => by have := hscale hp; omega)]
    have hplaces : r.pointed = true → r.scale + r.pointed.toNat + ds.length ≤ maxScale := by
      intro hp
      have := hscale hp
      simp only [hp, Bool.toNat_true]
      omega
    rw [ih hrest hplaces]
    have hscale' : r.scale + r.pointed.toNat + r.pointed.toNat * ds.length =
        r.scale + r.pointed.toNat * (ds.length + 1) := by
      rw [Nat.mul_succ]
      omega
    simp [hscale']

/-! ## Reading numerals -/

/-- What may follow the digits before the point: the point and the digits after it, or nothing where there
are none. -/
def IsTail (fraction tail : List Char) : Prop := tail = '.' :: fraction ∨ tail = [] ∧ fraction = []

theorem readPlain_numeral (hwhole : whole ≠ []) (htail : IsTail fraction tail)
    (h : valueFrom 10 0 (whole ++ fraction) = .some n) (hn : n < mantissaLimit) (hscale : fraction.length ≤ maxScale) :
    readPlain ⟨0, 0, false, false⟩ (whole ++ tail) = .some (n, fraction.length) := by
  rw [valueFrom_append] at h
  obtain ⟨w, hw, hrest⟩ := Option.bind_eq_some_iff.mp h
  have hle := le_of_valueFrom (by decide) hrest
  have hstarted : (!whole.isEmpty) = true := by simpa using hwhole
  rw [readPlain_append hw (by omega) (by simp)]
  rcases htail with rfl | ⟨rfl, rfl⟩
  · have hread := @readPlain_append n fraction ⟨w, 0, true, true⟩ hrest hn (by simpa using hscale) []
    rw [List.append_nil] at hread
    simp [readPlain, hstarted, hread]
  · cases hrest
    simp [readPlain, hstarted]

theorem takeSign_of_digit (hc : digitValue? 10 c = .some d) (cs : List Char) :
    takeSign (c :: cs) = (false, c :: cs) := by
  have hminus : c ≠ '-' := ne_of_digitValue? rfl hc
  have hplus : c ≠ '+' := ne_of_digitValue? rfl hc
  unfold takeSign
  split
  · next heq => exact absurd (List.cons_eq_cons.mp heq).1 hminus
  · next heq => exact absurd (List.cons_eq_cons.mp heq).1 hplus
  · rfl

/-- **A numeral whose digits fit is read as these digits**, with as many places as it has after the point. -/
theorem plain?_numeral (negative : Bool) (hwhole : whole ≠ []) (htail : IsTail fraction tail)
    (h : valueFrom 10 0 (whole ++ fraction) = .some n) (hn : n < mantissaLimit) (hscale : fraction.length ≤ maxScale) :
    plain? ((if negative then ['-'] else []) ++ (whole ++ tail)) = ofParts? negative n fraction.length := by
  have hread := readPlain_numeral hwhole htail h hn hscale
  cases negative with
  | true => simp [plain?, takeSign, hread]
  | false =>
    obtain ⟨c, whole, rfl⟩ := List.exists_cons_of_ne_nil hwhole
    obtain ⟨d, hc, -⟩ := Option.bind_eq_some_iff.mp h
    have hsign := takeSign_of_digit hc (whole ++ tail)
    rw [List.cons_append] at hread ⊢
    simp [plain?, hsign, hread]

theorem ofChars?_of_plain? {x : Decimal} (h : plain? cs = .some x) : ofChars? cs = .some x := by
  rw [ofChars?, h]
  rfl

/-! ## Writing -/

/-- The digits of a decimal, with zeros in front where there are too few to stand around the point. -/
def padded (d : Decimal) : List Char :=
  List.replicate (d.scale + 1 - (digits d.mantissa).length) '0' ++ digits d.mantissa

theorem chars_eq (d : Decimal) : d.chars =
    (if d.negative then ['-'] else []) ++ (d.padded.take (d.padded.length - d.scale) ++
      if d.scale = 0 then [] else '.' :: d.padded.drop (d.padded.length - d.scale)) :=
  List.append_assoc ..

theorem lt_length_padded (d : Decimal) : d.scale < d.padded.length := by
  rw [padded, List.length_append, List.length_replicate]
  omega

theorem valueFrom_padded (d : Decimal) : valueFrom 10 0 d.padded = .some d.mantissa := by
  rw [padded, valueFrom_append, valueFrom_replicate_zero]
  exact valueFrom_digits d.mantissa

theorem ofParts?_self {d : Decimal} (h : d.mantissa = 0 → d.negative = false) :
    ofParts? d.negative d.mantissa d.scale = .some d := by
  have hsign : (d.negative && d.mantissa != 0) = d.negative := by
    cases hzero : d.mantissa with
    | zero => rw [h hzero, Bool.false_and]
    | succ m => rw [Bool.and_eq_left_iff_imp]; simp
  rw [ofParts?, dif_pos ⟨d.mantissa_lt, d.scale_le⟩]
  simp [hsign]

/-- **The text of a decimal is read as the decimal**, unless it is a zero with a sign. -/
theorem ofText?_text {d : Decimal} (h : d.mantissa = 0 → d.negative = false) : ofText? d.text = .some d := by
  have hlength := d.lt_length_padded
  have hrest : (d.padded.drop (d.padded.length - d.scale)).length = d.scale := by
    rw [List.length_drop]
    omega
  have hwhole : d.padded.take (d.padded.length - d.scale) ≠ [] := by
    intro hnil
    have := congrArg List.length hnil
    rw [List.length_take, List.length_nil] at this
    omega
  have htail : IsTail (d.padded.drop (d.padded.length - d.scale))
      (if d.scale = 0 then [] else '.' :: d.padded.drop (d.padded.length - d.scale)) := by
    split
    · next hzero => exact .inr ⟨rfl, List.length_eq_zero_iff.mp (hrest.trans hzero)⟩
    · exact .inl rfl
  have hvalue : valueFrom 10 0 (d.padded.take (d.padded.length - d.scale) ++
      d.padded.drop (d.padded.length - d.scale)) = .some d.mantissa := by
    rw [List.take_append_drop]
    exact d.valueFrom_padded
  have hplaces := d.scale_le
  rw [← hrest] at hplaces
  have hread := plain?_numeral d.negative hwhole htail hvalue d.mantissa_lt hplaces
  rw [hrest, ofParts?_self h, ← chars_eq] at hread
  rw [ofText?, text, String.toList_ofList]
  exact ofChars?_of_plain? hread

/-- Decimals without signed zeros are displayed alike only if they are the same. -/
theorem text_inj {a b : Decimal} (ha : a.mantissa = 0 → a.negative = false)
    (hb : b.mantissa = 0 → b.negative = false) : a.text = b.text ↔ a = b := by
  constructor
  · intro htext
    have hread := ofText?_text ha
    rw [htext, ofText?_text hb] at hread
    exact (Option.some.inj hread).symm
  · rintro rfl
    rfl

end Decimal
end MarketSearch
