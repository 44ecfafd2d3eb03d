/-
Tiki listings.  The seller's own number is the product code, and the listing's
where that is blank.
-/
import MarketSearch.Listing.Fault

namespace MarketSearch

structure TikiCategory where
  id : Option Nat
  name : Option String

structure TikiListing where
  id : Option Nat
  sku : Option String
  name : Option String
  shortDescription : Option String
  price : Option Decimal
  brandName : Option String
  category : Option TikiCategory
  promotionCode : Option String
  thumbnailUrl : Option String
  discountRate : Option Decimal

open Json (optional string unsigned64 decimal) in
def TikiCategory.layout : Json.Layout TikiCategory :=
  ⟨"TikiCategory",
   [field "id" (optional unsigned64) fun c v => { c with id := v },
    field "name" (optional string) fun c v => { c with name := v }]⟩

namespace TikiListing

def blank : TikiListing :=
  ⟨.none, .none, .none, .none, .none, .none, .none, .none, .none, .none⟩

open Json (optional string unsigned64 decimal) in
def layout : Json.Layout TikiListing :=
  ⟨"TikiProduct",
   [field "id" (optional unsigned64) fun l v => { l with id := v },
    field "sku" (optional string) fun l v => { l with sku := v },
    field "name" (optional string) fun l v => { l with name := v },
    field "short_description" (optional string) fun l v => { l with shortDescription := v },
    field "price" (optional decimal) fun l v => { l with price := v },
    field "brand_name" (optional string) fun l v => { l with brandName := v },
    field "categories" (optional (TikiCategory.layout.decode ⟨.none, .none⟩))
      fun l v => { l with category := v },
    field "promotion_code" (optional string) fun l v => { l with promotionCode := v },
    field "thumbnail_url" (optional string) fun l v => { l with thumbnailUrl := v },
    field "discount_rate" (optional decimal) fun l v => { l with discountRate := v }]⟩

/-- The seller's number unless it is blank, or else the listing's. -/
def code? (l : TikiListing) : Option String :=
  (l.sku.filter (!Text.isAllBlank ·)).or (l.id.map Numeral.text)

def toProduct (l : TikiListing) : Listed Product := do
  let code ← match l.code? with
    | .some c => .ok c
    | .none => .error .noCode
  let amount ← Listed.field "price" l.price
  let price ← Listed.checked (Price.ofDecimal amount)
  let discountRate ← Listed.rate l.discountRate
  Listed.checked <| Product.ofDraft
    { Product.draft code (l.name.getD "") .tiki with
      description := l.shortDescription.getD ""
      price := price
      brand := l.brandName.getD ""
      category := (l.category.bind (·.name)).getD ""
      promotion := l.promotionCode
      image := l.thumbnailUrl.getD ""
      discountRate := discountRate }

/-- The product of a listing as data. -/
def normalize (v : Json) : Listed Product := do
  (← Listed.decoded (layout.decode blank v)).toProduct

end TikiListing
end MarketSearch
