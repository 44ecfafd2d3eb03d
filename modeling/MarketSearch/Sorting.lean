/-
What a search result can be sorted by, and which way.
-/
import MarketSearch.Source
import MarketSearch.Text.Blank

namespace MarketSearch

inductive SortDirection where
  | ascending
  | descending
deriving DecidableEq, Repr

namespace SortDirection

def label : SortDirection → String
  | .ascending => "ASC"
  | .descending => "DESC"

/-- The label in lower case, as query parameters of the marketplaces have it. -/
def lowerLabel : SortDirection → String
  | .ascending => "asc"
  | .descending => "desc"

def reversed : SortDirection → SortDirection
  | .ascending => .descending
  | .descending => .ascending

def isAscending (d : SortDirection) : Bool := d == .ascending

def json (d : SortDirection) : Json := .str d.label

def decode : Json.Decoder SortDirection :=
  Json.choice [("ASC", .ascending), ("DESC", .descending)]

def spellings : List (String × SortDirection) :=
  [("ASC", .ascending), ("ASCENDING", .ascending), ("DESC", .descending),
   ("DESCENDING", .descending)]

/-- Reads a spelling in any letter case, with blanks around it. -/
def ofText? (s : String) : Except UnknownName SortDirection :=
  match spellings.lookup (Text.toUpper (Text.trimmed s)) with
  | .some d => .ok d
  | .none => .error ⟨"SortDirection", s⟩

end SortDirection

inductive SortKey where
  | price
  | name
  | discountRate
deriving DecidableEq, Repr

namespace SortKey

def label : SortKey → String
  | .price => "price"
  | .name => "name"
  | .discountRate => "discount_rate"

/-- The name of the policy that sorts by the key. -/
def policyName : SortKey → String
  | .price => "ByPrice"
  | .name => "ByName"
  | .discountRate => "ByDiscountRate"

def labelled : List (String × SortKey) :=
  [("price", .price), ("name", .name), ("discount_rate", .discountRate)]

def json (k : SortKey) : Json := .str k.label

def decode : Json.Decoder SortKey := Json.choice labelled

def spellings : List (String × SortKey) :=
  labelled ++ [("discountrate", .discountRate), ("discount", .discountRate)]

/-- Reads a spelling in any letter case. -/
def ofText? (s : String) : Except UnknownName SortKey :=
  match spellings.lookup (Text.toLower s) with
  | .some k => .ok k
  | .none => .error ⟨"SortKey", s⟩

end SortKey
end MarketSearch
