/-
Shopee listings.  Prices are counted in hundred-thousandths, the shop's number
goes before the item's in the product code, and images are named by a hash
below one base address.
-/
import MarketSearch.Listing.Fault
import MarketSearch.Text.Slashes

namespace MarketSearch

structure ShopeeVoucher where
  voucherCode : Option String

structure ShopeeListing where
  itemId : Option Nat
  shopId : Option Nat
  name : Option String
  description : Option String
  price : Option Int
  brand : Option String
  categoryName : Option String
  voucher : Option ShopeeVoucher
  image : Option String
  rawDiscount : Option Nat

open Json (optional string) in
def ShopeeVoucher.layout : Json.Layout ShopeeVoucher :=
  ⟨"ShopeeVoucher",
   [field "voucher_code" (optional string) fun c v => { c with voucherCode := v }]⟩

namespace ShopeeListing

def blank : ShopeeListing :=
  ⟨.none, .none, .none, .none, .none, .none, .none, .none, .none, .none⟩

open Json (optional string unsigned64 unsigned32 signed64) in
def layout : Json.Layout ShopeeListing :=
  ⟨"ShopeeItem",
   [field "itemid" (optional unsigned64) fun l v => { l with itemId := v },
    field "shopid" (optional unsigned64) fun l v => { l with shopId := v },
    field "name" (optional string) fun l v => { l with name := v },
    field "description" (optional string) fun l v => { l with description := v },
    field "price" (optional signed64) fun l v => { l with price := v },
    field "brand" (optional string) fun l v => { l with brand := v },
    field "category_name" (optional string) fun l v => { l with categoryName := v },
    field "voucher_info" (optional (ShopeeVoucher.layout.decode ⟨.none⟩))
      fun l v => { l with voucher := v },
    field "image" (optional string) fun l v => { l with image := v },
    field "raw_discount" (optional unsigned32) fun l v => { l with rawDiscount := v }]⟩

/-- Digits after the point in a price. -/
def priceScale : Nat := 5

/-- A price as counted by the marketplace.  A count of 64 bits always fits. -/
def amountOf (count : Int) : Decimal :=
  (Decimal.ofParts? (count < 0) count.natAbs priceScale).getD .zero

def codeOf (shopId : Option Nat) (itemId : Nat) : String :=
  match shopId with
  | .some shop => Numeral.text shop ++ "." ++ Numeral.text itemId
  | .none => Numeral.text itemId

/-- The address of an image: as it is where it is one already, below the base otherwise. -/
def imageUrl (base : String) : Option String → String
  | .some image =>
    if "http://".toList.isPrefixOf image.toList || "https://".toList.isPrefixOf image.toList then
      image
    else if image.isEmpty then ""
    else String.ofList (Text.trimSlashes base.toList) ++ "/" ++ image
  | .none => ""

def toProduct (imageBase : String) (l : ShopeeListing) : Listed Product := do
  let item ← Listed.field "itemid" l.itemId
  let count ← Listed.field "price" l.price
  let price ← Listed.checked (Price.ofDecimal (amountOf count))
  let discountRate ← Listed.rate (l.rawDiscount.bind fun n => Decimal.ofInt? n)
  Listed.checked <| Product.ofDraft
    { Product.draft (codeOf l.shopId item) (l.name.getD "") .shopee with
      description := l.description.getD ""
      price := price
      brand := l.brand.getD ""
      category := l.categoryName.getD ""
      promotion := l.voucher.bind (·.voucherCode)
      image := imageUrl imageBase l.image
      discountRate := discountRate }

/-- The product of a listing as data. -/
def normalize (imageBase : String) (v : Json) : Listed Product := do
  (← Listed.decoded (layout.decode blank v)).toProduct imageBase

end ShopeeListing
end MarketSearch
