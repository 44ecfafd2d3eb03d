/-
What is searched for: the words of a query and the direction of the answer.
-/
import MarketSearch.Sorting
import MarketSearch.Text.Control
import MarketSearch.Violation

namespace MarketSearch

structure Filter where
  query : String
  direction : SortDirection
deriving DecidableEq

namespace Filter

/-- The longest query, in characters. -/
def maxQueryLength : Nat := 256

/-- The query as it is sent out: without the blanks around it. -/
def words (f : Filter) : String := Text.trimmed f.query

/-- Whether the query can be sent to the marketplaces: not blank, not too long, and without
control characters. -/
def validate (f : Filter) : Except Violation Unit :=
  let cs := f.words.toList
  if cs.isEmpty then .error (.query "query must not be empty")
  else if maxQueryLength < cs.length then
    .error (.query ("query exceeds " ++ Numeral.text maxQueryLength ++ " characters"))
  else if cs.any Text.isControl then .error (.query "query contains control characters")
  else .ok ()

def text (f : Filter) : String :=
  "ProductFilter(query=" ++ Text.quoted f.query ++ ", sort=" ++ f.direction.label ++ ")"

/-! ## As data -/

def json (f : Filter) : Json := .obj [("query", .str f.query), ("sort", f.direction.json)]

/-- A filter of which the query may not be known yet. -/
structure Partial where
  query : Option String
  direction : SortDirection

def layout : Json.Layout Partial :=
  ⟨"ProductFilter",
   [field "query" Json.string fun p q => { p with query := .some q },
    trailingField "sort" SortDirection.decode fun p d => { p with direction := d }]⟩

def decode : Json.Decoder Filter := fun v =>
  (layout.decode ⟨.none, .ascending⟩ v).bind fun p =>
    (Json.reading.require "query" p.query).map fun q => ⟨q, p.direction⟩

end Filter
end MarketSearch
