/-
What every product of a listing keeps to, whatever the marketplace wrote.

The values that products are made of have one way in each: a price or a rate
comes from a decimal that was checked and brought to normal form, and a
product from a draft whose code and name say something.  So what holds of a
product (`Product.IsWellFormed`) does not depend on the fields of a listing, of
which there are many, but on the few steps that lead out of it, and each
mapper takes all of them.
-/
import MarketSearch.Listing.Mapper
import MarketSearch.Proofs.Decimal
import MarketSearch.Proofs.Except

namespace MarketSearch

/-! ## Values -/

namespace Price

/-- Not below zero, and in normal form. -/
structure IsValid (p : Price) : Prop where
  nonneg : 0 ≤ p.amount.units
  normal : p.amount.IsNormal

theorem ofDecimal_eq_ok_iff {d : Decimal} {p : Price} :
    ofDecimal d = .ok p ↔ 0 ≤ d.units ∧ p = ⟨d.normalize⟩ := by
  unfold ofDecimal
  split
  · next h => simp [Int.not_le.mpr (Decimal.isNegative_iff.mp h)]
  · next h => simp [Int.not_lt.mp (mt Decimal.isNegative_iff.mpr h), eq_comm]

theorem isValid_of_ofDecimal {d : Decimal} {p : Price} (h : ofDecimal d = .ok p) : p.IsValid := by
  obtain ⟨hd, rfl⟩ := ofDecimal_eq_ok_iff.mp h
  exact ⟨d.units_normalize ▸ hd, d.isNormal_normalize⟩

end Price

namespace DiscountRate

/-- Between 0 and 100, and in normal form. -/
structure IsValid (r : DiscountRate) : Prop where
  nonneg : 0 ≤ r.percent.units
  le_hundred : r.percent.units ≤ Decimal.hundred.units
  normal : r.percent.IsNormal

theorem isValid_zero : zero.IsValid := ⟨by decide, by decide, Decimal.isNormal_zero⟩

theorem ofDecimal_eq_ok_iff {d : Decimal} {r : DiscountRate} :
    ofDecimal d = .ok r ↔
      0 ≤ d.units ∧ d.units ≤ Decimal.hundred.units ∧ r = ⟨d.normalize⟩ := by
  have hgt : (d.compare .hundred == .gt) = true ↔ Decimal.hundred.units < d.units := by
    rw [beq_iff_eq]
    exact Std.compare_eq_gt
  unfold ofDecimal
  split
  · next h =>
    rw [Bool.or_eq_true, Decimal.isNegative_iff, hgt] at h
    simp
    omega
  · next h =>
    rw [Bool.or_eq_true, Decimal.isNegative_iff, hgt] at h
    have hd : 0 ≤ d.units ∧ d.units ≤ Decimal.hundred.units := by omega
    simp [hd, eq_comm]

theorem isValid_of_ofDecimal {d : Decimal} {r : DiscountRate} (h : ofDecimal d = .ok r) : r.IsValid := by
  obtain ⟨h0, h100, rfl⟩ := ofDecimal_eq_ok_iff.mp h
  exact ⟨d.units_normalize ▸ h0, d.units_normalize ▸ h100, d.isNormal_normalize⟩

end DiscountRate

/-! ## Products -/

namespace Product

structure IsWellFormed (p : Product) : Prop where
  code : Text.isAllBlank p.code = false
  name : Text.isAllBlank p.name = false
  price : p.price.IsValid
  discountRate : p.discountRate.IsValid
  /-- A promotion that says nothing is none. -/
  promotion : ∀ code, p.promotion = .some code → Text.isAllBlank code = false

theorem ofDraft_eq_ok_iff {d p : Product} :
    ofDraft d = .ok p ↔ Text.isAllBlank d.code = false ∧ Text.isAllBlank d.name = false ∧
      p = { d with promotion := givenPromotion d.promotion } := by
  unfold ofDraft
  split
  · next hcode => simp [hcode]
  · next hcode =>
    split
    · next hname => simp [hname]
    · next hname =>
      rw [Bool.not_eq_true] at hcode hname
      simp [hcode, hname, eq_comm]

theorem isWellFormed_of_ofDraft {d p : Product} (h : ofDraft d = .ok p) (hprice : d.price.IsValid)
    (hrate : d.discountRate.IsValid) : p.IsWellFormed ∧ p.source = d.source := by
  obtain ⟨hcode, hname, rfl⟩ := ofDraft_eq_ok_iff.mp h
  refine ⟨⟨hcode, hname, hprice, hrate, fun code hp => ?_⟩, rfl⟩
  simpa using (Option.filter_eq_some_iff.mp hp).2

end Product

/-! ## Steps towards a product -/

namespace Listed

theorem checked_eq_ok_iff {α : Type} {x : Except Violation α} {a : α} :
    checked x = .ok a ↔ x = .ok a := by
  cases x <;> simp [checked]

theorem isValid_of_rate {percent? : Option Decimal} {r : DiscountRate} (h : rate percent? = .ok r) :
    r.IsValid := by
  cases percent? with
  | none =>
    cases h
    exact DiscountRate.isValid_zero
  | some d => exact DiscountRate.isValid_of_ofDecimal (checked_eq_ok_iff.mp h)

end Listed

/-! ## Listings -/

theorem TikiListing.isWellFormed_of_toProduct {l : TikiListing} {p : Product}
    (h : l.toProduct = .ok p) : p.IsWellFormed ∧ p.source = .tiki := by
  unfold toProduct at h
  split at h
  · simp only [bind_eq_ok_iff, Listed.checked_eq_ok_iff] at h
    obtain ⟨_, -, _, -, _, hprice, _, hrate, hp⟩ := h
    exact Product.isWellFormed_of_ofDraft hp (Price.isValid_of_ofDecimal hprice)
      (Listed.isValid_of_rate hrate)
  · cases h

theorem ShopeeListing.isWellFormed_of_toProduct {base : String} {l : ShopeeListing} {p : Product}
    (h : l.toProduct base = .ok p) : p.IsWellFormed ∧ p.source = .shopee := by
  simp only [toProduct, bind_eq_ok_iff, Listed.checked_eq_ok_iff] at h
  obtain ⟨_, -, _, -, _, hprice, _, hrate, hp⟩ := h
  exact Product.isWellFormed_of_ofDraft hp (Price.isValid_of_ofDecimal hprice)
    (Listed.isValid_of_rate hrate)

namespace LazadaListing

theorem isValid_of_priceOf {raw : String} {p : Price} (h : priceOf raw = .ok p) : p.IsValid := by
  unfold priceOf at h
  split at h
  · exact Price.isValid_of_ofDecimal (Listed.checked_eq_ok_iff.mp h)
  · cases h

theorem isValid_of_rateOf {label? : Option String} {r : DiscountRate} (h : rateOf label? = .ok r) :
    r.IsValid := by
  unfold rateOf at h
  split at h
  · split at h
    · exact DiscountRate.isValid_of_ofDecimal (Listed.checked_eq_ok_iff.mp h)
    · cases h
  · cases h
    exact DiscountRate.isValid_zero

theorem isWellFormed_of_toProduct {l : LazadaListing} {p : Product} (h : l.toProduct = .ok p) :
    p.IsWellFormed ∧ p.source = .lazada := by
  simp only [toProduct, bind_eq_ok_iff, Listed.checked_eq_ok_iff] at h
  obtain ⟨_, -, _, -, _, hprice, _, hrate, hp⟩ := h
  exact Product.isWellFormed_of_ofDraft hp (isValid_of_priceOf hprice) (isValid_of_rateOf hrate)

end LazadaListing

/-! ## Mappers -/

namespace Mapper

theorem isWellFormed_of_normalize {m : Mapper} {v : Json} {p : Product} (h : m.normalize v = .ok p) :
    p.IsWellFormed ∧ p.source = m.source := by
  cases m with
  | tiki =>
    obtain ⟨l, -, hl⟩ := bind_eq_ok_iff.mp h
    exact TikiListing.isWellFormed_of_toProduct hl
  | shopee base =>
    obtain ⟨l, -, hl⟩ := bind_eq_ok_iff.mp h
    exact ShopeeListing.isWellFormed_of_toProduct hl
  | lazada =>
    obtain ⟨l, -, hl⟩ := bind_eq_ok_iff.mp h
    exact LazadaListing.isWellFormed_of_toProduct hl

/-- **A listing is refused as malformed, or becomes a well-formed product of its marketplace.** -/
theorem map_malformed_or_isWellFormed (m : Mapper) (v : Json) :
    (∃ message, m.map v = .error (.malformed m.source message)) ∨
      ∃ p, m.map v = .ok p ∧ p.source = m.source ∧ p.IsWellFormed := by
  unfold map
  split
  · next p hp =>
    obtain ⟨hwell, hsource⟩ := isWellFormed_of_normalize hp
    exact .inr ⟨p, rfl, hsource, hwell⟩
  · exact .inl ⟨_, rfl⟩

/-- Blanks around a price, zeros after its point, and a promotion that says nothing. -/
example :
    (lazada.map (.obj
      [("itemId", .str "7"), ("name", .str "x"), ("price", .str " 1.50 "), ("discount", .str "-20%"),
       ("promotionId", .str " ")])).toOption =
      .some
        { Product.draft "7" "x" .lazada with
          price := ⟨⟨false, 15, 1, by decide, by decide⟩⟩
          discountRate := ⟨⟨false, 20, 0, by decide, by decide⟩⟩ } := by decide

end Mapper
end MarketSearch
