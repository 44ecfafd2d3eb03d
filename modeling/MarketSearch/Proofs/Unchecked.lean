/-
Prices and rates that are read from data.

Reading takes the decimal as it is given, while the constructors check it and
bring it to normal form.  So a value that was read is the one a constructor
makes of its decimal exactly when it keeps to the rules by itself
(`Price.ofDecimal_amount_iff`, `DiscountRate.ofDecimal_percent_iff`), which data
does not warrant: a price may be below zero, a rate beyond 100, and two equal
prices may be displayed differently (`Json.read_against_rules`).
-/
import MarketSearch.Proofs.Normalization

namespace MarketSearch
namespace Json

/-- A whole number that is read is in normal form and has its value. -/
theorem units_of_decimal_int {n : Int} {d : Decimal} (h : decimal (.int n) = .ok d) :
    d.IsNormal ∧ d.units = n * Nat.pow 10 28 := by
  simp only [decimal] at h
  split at h
  · next hd =>
    cases h
    exact Decimal.isNormal_ofInt? hd
  · cases h

theorem units_nonneg_of_decimal_int {n : Int} {d : Decimal} (h : decimal (.int n) = .ok d) :
    0 ≤ d.units ↔ 0 ≤ n := by
  rw [(units_of_decimal_int h).2]
  exact Int.mul_nonneg_iff_of_pos_right (by decide)

/-- What a text of data is read as. -/
def readAs {α : Type} (decode : Decoder α) (text : String) : Option α :=
  (ofText? text).bind fun v => (decode v).toOption

theorem readAs_eq_some_iff {α : Type} {decode : Decoder α} {text : String} {a : α} :
    readAs decode text = .some a ↔ ∃ v, ofText? text = .some v ∧ decode v = .ok a := by
  simp only [readAs, Option.bind_eq_some_iff, toOption_eq_some_iff]

end Json

/-! ## Prices -/

namespace Price

variable {data : String} {p q : Price}

/-- A price is what is made of its own decimal when it keeps to the rules. -/
theorem ofDecimal_amount_iff : ofDecimal p.amount = .ok p ↔ p.IsValid := by
  rw [ofDecimal_eq_ok_iff]
  constructor
  · rintro ⟨hnonneg, hp⟩
    exact ⟨hnonneg, Decimal.normalize_eq_self_iff.mp (congrArg amount hp).symm⟩
  · rintro ⟨hnonneg, hnormal⟩
    exact ⟨hnonneg, by rw [Decimal.normalize_eq_self_iff.mpr hnormal]⟩

theorem ofDecimal_eq_error_iff {d : Decimal} : ofDecimal d = .error (.price d) ↔ d.units < 0 := by
  unfold ofDecimal
  rw [← Decimal.isNegative_iff]
  split <;> simp [*]

/-- Prices that keep to the rules are displayed alike when they are equal. -/
theorem IsValid.text_eq (hp : p.IsValid) (hq : q.IsValid) (h : p.compare q = .eq) : p.text = q.text := by
  have hunits : p.amount.units = q.amount.units := Std.compare_eq_iff_eq.mp h
  rw [text, text, hp.normal.eq_of_units_eq hq.normal hunits]

/-- How a price that was read from a text stands to the constructor. -/
structure StandsTo (data : String) (p : Price) : Prop where
  amount : Json.readAs Json.decimal data = .some p.amount
  /-- It is what the constructor makes of its decimal. -/
  kept : ofDecimal p.amount = .ok p ↔ p.IsValid
  refused : ofDecimal p.amount = .error (.price p.amount) ↔ p.amount.units < 0
  /-- Where the constructor takes the decimal, it makes a price of the same value. -/
  made : 0 ≤ p.amount.units → ∃ q, ofDecimal p.amount = .ok q ∧ q.compare p = .eq
  /-- A whole number keeps to the rules when it is not below zero. -/
  whole : ∀ n, Json.ofText? data = .some (.int n) → (p.IsValid ↔ 0 ≤ n)

theorem standsTo (h : Json.readAs decode data = .some p) : p.StandsTo data := by
  obtain ⟨v, hv, h⟩ := Json.readAs_eq_some_iff.mp h
  obtain ⟨d, hd, rfl⟩ := map_eq_ok_iff.mp h
  refine ⟨Json.readAs_eq_some_iff.mpr ⟨v, hv, hd⟩, ofDecimal_amount_iff, ofDecimal_eq_error_iff, fun hnonneg => ?_, ?_⟩
  · refine ⟨⟨d.normalize⟩, ofDecimal_eq_ok_iff.mpr ⟨hnonneg, rfl⟩, ?_⟩
    exact Std.compare_eq_iff_eq.mpr d.units_normalize
  · intro n hn
    obtain rfl := Option.some.inj (hv.symm.trans hn)
    have hsign := Json.units_nonneg_of_decimal_int hd
    exact ⟨fun hp => hsign.mp hp.nonneg, fun hn => ⟨hsign.mpr hn, (Json.units_of_decimal_int hd).1⟩⟩

end Price

/-! ## Rates -/

namespace DiscountRate

variable {data : String} {r r' : DiscountRate}

/-- A rate is what is made of its own decimal when it keeps to the rules. -/
theorem ofDecimal_percent_iff : ofDecimal r.percent = .ok r ↔ r.IsValid := by
  rw [ofDecimal_eq_ok_iff]
  constructor
  · rintro ⟨hnonneg, hmax, hr⟩
    exact ⟨hnonneg, hmax, Decimal.normalize_eq_self_iff.mp (congrArg percent hr).symm⟩
  · rintro ⟨hnonneg, hmax, hnormal⟩
    exact ⟨hnonneg, hmax, by rw [Decimal.normalize_eq_self_iff.mpr hnormal]⟩

theorem ofDecimal_eq_error_iff {d : Decimal} :
    ofDecimal d = .error (.discountRate d) ↔ d.units < 0 ∨ Decimal.hundred.units < d.units := by
  have hgt : (d.compare .hundred == .gt) = true ↔ Decimal.hundred.units < d.units := by
    rw [beq_iff_eq]
    exact Std.compare_eq_gt
  unfold ofDecimal
  rw [← Decimal.isNegative_iff, ← hgt, ← Bool.or_eq_true]
  split <;> simp [*]

theorem IsValid.text_eq (hr : r.IsValid) (hr' : r'.IsValid) (h : r.compare r' = .eq) : r.text = r'.text := by
  have hunits : r.percent.units = r'.percent.units := Std.compare_eq_iff_eq.mp h
  rw [text, text, hr.normal.eq_of_units_eq hr'.normal hunits]

/-- How a rate that was read from a text stands to the constructor. -/
structure StandsTo (data : String) (r : DiscountRate) : Prop where
  percent : Json.readAs Json.decimal data = .some r.percent
  /-- It is what the constructor makes of its decimal. -/
  kept : ofDecimal r.percent = .ok r ↔ r.IsValid
  refused : ofDecimal r.percent = .error (.discountRate r.percent) ↔
    r.percent.units < 0 ∨ Decimal.hundred.units < r.percent.units
  /-- Where the constructor takes the decimal, it makes a rate of the same value. -/
  made : 0 ≤ r.percent.units → r.percent.units ≤ Decimal.hundred.units →
    ∃ r', ofDecimal r.percent = .ok r' ∧ r'.compare r = .eq
  /-- A whole number keeps to the rules when it is between 0 and 100. -/
  whole : ∀ n, Json.ofText? data = .some (.int n) → (r.IsValid ↔ 0 ≤ n ∧ n ≤ 100)

theorem standsTo (h : Json.readAs decode data = .some r) : r.StandsTo data := by
  obtain ⟨v, hv, h⟩ := Json.readAs_eq_some_iff.mp h
  obtain ⟨d, hd, rfl⟩ := map_eq_ok_iff.mp h
  refine ⟨Json.readAs_eq_some_iff.mpr ⟨v, hv, hd⟩, ofDecimal_percent_iff, ofDecimal_eq_error_iff, fun hnonneg hmax => ?_, ?_⟩
  · refine ⟨⟨d.normalize⟩, ofDecimal_eq_ok_iff.mpr ⟨hnonneg, hmax, rfl⟩, ?_⟩
    exact Std.compare_eq_iff_eq.mpr d.units_normalize
  · intro n hn
    obtain rfl := Option.some.inj (hv.symm.trans hn)
    obtain ⟨hnormal, hunits⟩ := Json.units_of_decimal_int hd
    have hsign := Json.units_nonneg_of_decimal_int hd
    have hmax : d.units ≤ Decimal.hundred.units ↔ n ≤ 100 := by
      rw [hunits]
      exact Int.mul_le_mul_iff_of_pos_right (by decide)
    exact ⟨fun hr => ⟨hsign.mp hr.nonneg, hmax.mp hr.le_hundred⟩,
      fun hn => ⟨hsign.mpr hn.1, hmax.mpr hn.2, hnormal⟩⟩

end DiscountRate

/-! ## Both -/

namespace Json

/-- **Reading checks nothing.** A price or rate that a text of data is read as has the decimal of the
text, whatever that is; it is what the constructor makes of this decimal when it keeps to the rules
by itself, and only then; and those that do are displayed alike when they are equal. -/
theorem standsTo_of_readAs (data : String) :
    (∀ p, readAs Price.decode data = .some p → p.StandsTo data) ∧
    (∀ r, readAs DiscountRate.decode data = .some r → r.StandsTo data) ∧
    (∀ p q : Price, p.IsValid → q.IsValid → p.compare q = .eq → p.text = q.text) ∧
    ∀ r r' : DiscountRate, r.IsValid → r'.IsValid → r.compare r' = .eq → r.text = r'.text :=
  ⟨fun _ => Price.standsTo, fun _ => DiscountRate.standsTo,
    fun _ _ hp hq => hp.text_eq hq, fun _ _ hr hr' => hr.text_eq hr'⟩

/-- The number 101 is read as a price and as a rate, and keeps to the rules of prices alone. -/
theorem standsTo_of_readAs_101 :
    let d : Decimal := ⟨false, 101, 0, by decide, by decide⟩
    Price.ofDecimal d = .ok ⟨d⟩ ∧ DiscountRate.ofDecimal d = .error (.discountRate d) ∧
      ¬(DiscountRate.mk d).IsValid := by
  intro d
  have hprice : Price.StandsTo "101" ⟨d⟩ := (standsTo_of_readAs "101").1 _ (by decide)
  have hrate : DiscountRate.StandsTo "101" ⟨d⟩ := (standsTo_of_readAs "101").2.1 _ (by decide)
  exact ⟨hprice.kept.mpr ((hprice.whole 101 rfl).mpr (by decide)), hrate.refused.mpr (by decide),
    fun h => absurd ((hrate.whole 101 rfl).mp h) (by decide)⟩

/-- Texts that are read as a price below zero, as a rate beyond 100, and as two prices that are equal
and displayed differently. -/
theorem read_against_rules :
    (∃ p, readAs Price.decode "-5" = .some p ∧ Price.ofDecimal p.amount = .error (.price p.amount)) ∧
    (∃ r, readAs DiscountRate.decode "150" = .some r ∧
      DiscountRate.ofDecimal r.percent = .error (.discountRate r.percent)) ∧
    ∃ p q, readAs Price.decode "\"1.50\"" = .some p ∧ readAs Price.decode "1.5" = .some q ∧
      p.compare q = .eq ∧ p.text = "1.50" ∧ q.text = "1.5" := by
  refine ⟨⟨⟨⟨true, 5, 0, by decide, by decide⟩⟩, by decide, Price.ofDecimal_eq_error_iff.mpr (by decide)⟩,
    ⟨⟨⟨false, 150, 0, by decide, by decide⟩⟩, by decide, DiscountRate.ofDecimal_eq_error_iff.mpr (by decide)⟩,
    ⟨⟨⟨false, 150, 2, by decide, by decide⟩⟩, ⟨⟨false, 15, 1, by decide, by decide⟩⟩, ?_⟩⟩
  decide +kernel

end Json
end MarketSearch
