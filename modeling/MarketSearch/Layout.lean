/-
Records with named fields, as they are read from values.

A layout lists the fields of a kind of record in order and says how each is
set from a value.  It does not say where values come from: a reading supplies
the readers of single values, so that one layout serves data and settings
alike.
-/
import MarketSearch.Numeral

namespace MarketSearch

/-- A named field: how it is set in a record, and whether a list of fields may end before it.
Values are of type `ν`, faults of type `ε`. -/
structure Field (ν ε σ : Type) where
  name : String
  set : ν → σ → Except ε σ
  trailing : Bool

/-- A kind of record: its name and its fields in order. -/
structure Layout (ν ε σ : Type) where
  name : String
  fields : List (Field ν ε σ)

/-- A field whose value is read by `read` and put into the record by `put`. -/
def field {ν ε σ α : Type} (name : String) (read : ν → Except ε α) (put : σ → α → σ) :
    Field ν ε σ :=
  ⟨name, fun v r => (read v).map (put r), false⟩

/-- A field that a list of fields may leave out at its end. -/
def trailingField {ν ε σ α : Type} (name : String) (read : ν → Except ε α) (put : σ → α → σ) :
    Field ν ε σ :=
  { field name read put with trailing := true }

namespace Layout

variable {ν ε σ : Type}

def find? (l : Layout ν ε σ) (name : String) : Option (Field ν ε σ) :=
  l.fields.find? (·.name == name)

/-- Sets one named value, if the record knows the name. -/
def setNamed (l : Layout ν ε σ) (r : σ) (f : String × ν) : Except ε σ :=
  match l.find? f.1 with
  | .some known => known.set f.2 r
  | .none => .ok r

/-- Sets named values one after the other. -/
def setAll (l : Layout ν ε σ) (start : σ) (fields : List (String × ν)) : Except ε σ :=
  fields.foldlM l.setNamed start

/-- What messages call the form in which the fields are a list. -/
def listName (l : Layout ν ε σ) : String :=
  "struct " ++ l.name ++ " with " ++ Numeral.text l.fields.length ++
    (if l.fields.length = 1 then " element" else " elements")

end Layout

/-- How single values and records are read from values of one kind. -/
structure Reading (ν ε : Type) where
  text : ν → Except ε String
  flag : ν → Except ε Bool
  count16 : ν → Except ε UInt16
  count64 : ν → Except ε UInt64
  size : ν → Except ε UInt64
  optional : {α : Type} → (ν → Except ε α) → ν → Except ε (Option α)
  choice : {α : Type} → (enumeration : String) → List (String × α) → ν → Except ε α
  record : {σ : Type} → Layout ν ε σ → σ → ν → Except ε σ
  missing : (field : String) → ε

/-- A field that has to be there. -/
def Reading.require {ν ε α : Type} (r : Reading ν ε) (name : String) : Option α → Except ε α
  | .some a => .ok a
  | .none => .error (r.missing name)

end MarketSearch
