/-
Lazada listings.  Prices are texts, discounts are labels such as `-20%`, and
the description is a list of points.
-/
import MarketSearch.Listing.Fault

namespace MarketSearch

structure LazadaListing where
  itemId : Option String
  name : Option String
  description : Option (List String)
  price : Option String
  brandName : Option String
  categoryName : Option String
  promotionId : Option String
  image : Option String
  discount : Option String

namespace LazadaListing

def blank : LazadaListing := ⟨.none, .none, .none, .none, .none, .none, .none, .none, .none⟩

open Json (optional string list) in
def layout : Json.Layout LazadaListing :=
  ⟨"LazadaItem",
   [field "itemId" (optional string) fun l v => { l with itemId := v },
    field "name" (optional string) fun l v => { l with name := v },
    field "description" (optional (list string)) fun l v => { l with description := v },
    field "price" (optional string) fun l v => { l with price := v },
    field "brandName" (optional string) fun l v => { l with brandName := v },
    field "categoryName" (optional string) fun l v => { l with categoryName := v },
    field "promotionId" (optional string) fun l v => { l with promotionId := v },
    field "image" (optional string) fun l v => { l with image := v },
    field "discount" (optional string) fun l v => { l with discount := v }]⟩

def priceOf (raw : String) : Listed Price :=
  match Decimal.ofChars? (Text.trim raw.toList) with
  | .some d => Listed.checked (Price.ofDecimal d)
  | .none => .error (.unparseable "price" raw)

/-- What a discount label says once blanks, leading dashes and percent signs at the end are
taken off. -/
def labelDigits (label : String) : List Char :=
  let dashless := (Text.trim label.toList).dropWhile (· == '-')
  Text.trim (dashless.reverse.dropWhile (· == '%')).reverse

/-- The percentage of a label; one that says nothing is no discount. -/
def percent? (label : String) : Option Decimal :=
  let digits := labelDigits label
  if digits.isEmpty then .some .zero else Decimal.ofChars? digits

def rateOf : Option String → Listed DiscountRate
  | .some label =>
    match percent? label with
    | .some d => Listed.checked (DiscountRate.ofDecimal d)
    | .none => .error (.unparseable "discount" label)
  | .none => .ok .zero

def toProduct (l : LazadaListing) : Listed Product := do
  let code ← Listed.field "itemId" l.itemId
  let raw ← Listed.field "price" l.price
  let price ← priceOf raw
  let discountRate ← rateOf l.discount
  Listed.checked <| Product.ofDraft
    { Product.draft code (l.name.getD "") .lazada with
      description := "\n".intercalate (l.description.getD [])
      price := price
      brand := l.brandName.getD ""
      category := l.categoryName.getD ""
      promotion := l.promotionId
      image := l.image.getD ""
      discountRate := discountRate }

/-- The product of a listing as data. -/
def normalize (v : Json) : Listed Product := do
  (← Listed.decoded (layout.decode blank v)).toProduct

end LazadaListing
end MarketSearch
