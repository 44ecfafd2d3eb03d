/-
Why a listing of a marketplace does not become a product.
-/
import MarketSearch.Product.Basic

namespace MarketSearch

inductive ListingFault where
  | undecodable (mismatch : Json.Mismatch)
  | missing (field : String)
  | noCode
  | unparseable (field raw : String)
  | violation (rule : Violation)

namespace ListingFault

def message : ListingFault → String
  | .undecodable m => "undecodable record: " ++ m.message
  | .missing field => "missing " ++ field
  | .noCode => "record has neither sku nor id"
  | .unparseable field raw => "unparseable " ++ field ++ " '" ++ raw ++ "'"
  | .violation v => v.message

end ListingFault

/-- The outcome of a step towards a product. -/
abbrev Listed (α : Type) := Except ListingFault α

namespace Listed

def field {α : Type} (name : String) : Option α → Listed α
  | .some a => .ok a
  | .none => .error (.missing name)

def checked {α : Type} : Except Violation α → Listed α
  | .ok a => .ok a
  | .error v => .error (.violation v)

def decoded {α : Type} : Except Json.Mismatch α → Listed α
  | .ok a => .ok a
  | .error m => .error (.undecodable m)

/-- The rate of a listing that may not give one. -/
def rate : Option Decimal → Listed DiscountRate
  | .some d => checked (DiscountRate.ofDecimal d)
  | .none => .ok .zero

end Listed
end MarketSearch
