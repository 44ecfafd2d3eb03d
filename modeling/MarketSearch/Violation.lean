/-
The rules of the domain that a value can break.
-/
import MarketSearch.Decimal.Basic

namespace MarketSearch

inductive Violation where
  | query (reason : String)
  | price (amount : Decimal)
  | discountRate (percent : Decimal)
  | missingField (name : String)
deriving DecidableEq

def Violation.message : Violation → String
  | .query reason => "invalid query: " ++ reason
  | .price d => "invalid price: " ++ d.text ++ " (must be non-negative)"
  | .discountRate d => "invalid discount rate: " ++ d.text ++ " (must be between 0 and 100)"
  | .missingField name => "missing required field: " ++ name

end MarketSearch
