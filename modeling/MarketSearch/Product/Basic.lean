/-
Products, in the one form that listings of every marketplace are brought to.
-/
import MarketSearch.DiscountRate
import MarketSearch.Price
import MarketSearch.Sorting
import MarketSearch.Text.Blank

namespace MarketSearch

structure Product where
  code : String
  name : String
  description : String
  price : Price
  brand : String
  category : String
  promotion : Option String
  image : String
  discountRate : DiscountRate
  source : Source
deriving DecidableEq

namespace Product

def text (p : Product) : String :=
  "Product(" ++ p.source.label ++ ":" ++ p.code ++ " '" ++ p.name ++ "' @ " ++ p.price.text ++ ")"

def json (p : Product) : Json :=
  .obj
    [("code", .str p.code),
     ("name", .str p.name),
     ("description", .str p.description),
     ("price", p.price.json),
     ("brand", .str p.brand),
     ("category", .str p.category),
     ("promotion", (p.promotion.map Json.str).getD .null),
     ("image", .str p.image),
     ("discountRate", p.discountRate.json),
     ("source", p.source.json)]

/-- The data of a whole search result. -/
def listJson (ps : List Product) : Json := .obj [("products", .arr (ps.map json))]

/-- How many products come from each source that has any, in canonical order. -/
def countBySource (ps : List Product) : List (Source × Nat) :=
  (Source.all.map fun s => (s, (ps.filter (·.source == s)).length)).filter (·.2 != 0)

/-! ## Drafts -/

/-- The promotion code, if it says anything. -/
def givenPromotion (promotion : Option String) : Option String :=
  promotion.filter (!Text.isAllBlank ·)

/-- A product of which only what identifies it is known. -/
def draft (code name : String) (source : Source) : Product where
  code := code
  name := name
  description := ""
  price := .zero
  brand := ""
  category := ""
  promotion := .none
  image := ""
  discountRate := .zero
  source := source

/-- Accepts a draft whose code and name say something. -/
def ofDraft (p : Product) : Except Violation Product :=
  if Text.isAllBlank p.code then .error (.missingField "code")
  else if Text.isAllBlank p.name then .error (.missingField "name")
  else .ok { p with promotion := givenPromotion p.promotion }

end Product
end MarketSearch
