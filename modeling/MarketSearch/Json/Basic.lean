/-
Values of the data format that requests, records and settings are written in.

Whole numbers are kept exactly and apart from the others: `1` and `1.0` are
different values.  An object is a list of fields in the order written;
`canonical` sorts the fields by name and keeps the last of equal names, which
is what a value means when it is looked at rather than read.
-/
import MarketSearch.Binary64.Text

namespace MarketSearch

inductive Json where
  | null
  | bool (value : Bool)
  | int (value : Int)
  | float (value : Binary64)
  | str (value : String)
  | arr (items : List Json)
  | obj (fields : List (String × Json))
deriving Inhabited

namespace Json

/-! ## Fields -/

/-- Puts a field in its place by name, over a field of the same name. -/
def setField {α : Type} (name : String) (value : α) : List (String × α) → List (String × α)
  | [] => [(name, value)]
  | (n, v) :: rest =>
    if name = n then (name, value) :: rest
    else if name < n then (name, value) :: (n, v) :: rest
    else (n, v) :: setField name value rest

/-- The fields sorted by name, the last of equal names kept. -/
def sortFields {α : Type} (fields : List (String × α)) : List (String × α) :=
  fields.foldl (fun acc f => setField f.1 f.2 acc) []

mutual
/-- The value with every object in it sorted and without duplicates. -/
def canonical : Json → Json
  | .arr items => .arr (canonicalItems items)
  | .obj fields => .obj (sortFields (canonicalFields fields))
  | .null => .null
  | .bool b => .bool b
  | .int n => .int n
  | .float x => .float x
  | .str s => .str s

def canonicalItems : List Json → List Json
  | [] => []
  | v :: vs => canonical v :: canonicalItems vs

def canonicalFields : List (String × Json) → List (String × Json)
  | [] => []
  | (n, v) :: fs => (n, canonical v) :: canonicalFields fs
end

/-- A field of an object by its name. -/
def get? (v : Json) (name : String) : Option Json :=
  match v with
  | .obj fields => fields.lookup name
  | _ => .none

end Json
end MarketSearch
