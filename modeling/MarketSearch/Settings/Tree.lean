/-
Settings before they have meaning: trees of values, laid over one another.

A later layer wins.  Tables are merged key by key at every depth; anything
else replaces what was there, and a table replaces what was no table.  Each
value remembers where it was set, except tables that arise from merging.
-/
import MarketSearch.Json.Basic

namespace MarketSearch

inductive Scalar where
  | null
  | bool (value : Bool)
  | int (value : Int)
  | float (value : Binary64)
  | str (value : String)
deriving DecidableEq

inductive Setting where
  | scalar (origin : Option String) (value : Scalar)
  | list (origin : Option String) (items : List Setting)
  | table (origin : Option String) (fields : List (String × Setting))
deriving Inhabited

namespace Setting

def none : Setting := .scalar .none .null

def empty : Setting := .table .none []

def origin : Setting → Option String
  | .scalar o _ => o
  | .list o _ => o
  | .table o _ => o

/-- The fields of a table; anything else has none. -/
def fields : Setting → List (String × Setting)
  | .table _ fs => fs
  | _ => []

/-- The items of a list; anything else has none. -/
def items : Setting → List Setting
  | .list _ vs => vs
  | _ => []

/-! ## From data -/

/-- A whole number beyond the signed range of 64 bits is kept as a binary number. -/
def ofInt (n : Int) : Scalar :=
  if -(Nat.pow 2 63) ≤ n ∧ n < Nat.pow 2 63 then .int n else .float (.ofInt n)

mutual
def ofJson (origin : Option String) : Json → Setting
  | .null => .scalar origin .null
  | .bool b => .scalar origin (.bool b)
  | .int n => .scalar origin (ofInt n)
  | .float x => .scalar origin (.float x)
  | .str s => .scalar origin (.str s)
  | .arr vs => .list origin (ofItems origin vs)
  | .obj fs => .table origin (ofFields origin fs)

def ofItems (origin : Option String) : List Json → List Setting
  | [] => []
  | v :: vs => ofJson origin v :: ofItems origin vs

def ofFields (origin : Option String) : List (String × Json) → List (String × Setting)
  | [] => []
  | (n, v) :: fs => (n, ofJson origin v) :: ofFields origin fs
end

/-! ## Fields -/

/-- Changes the value of a name, which is nothing if the name is new. -/
def update (name : String) (f : Setting → Setting) :
    List (String × Setting) → List (String × Setting)
  | [] => [(name, f none)]
  | (n, v) :: rest => if n = name then (n, f v) :: rest else (n, v) :: update name f rest

/-- Changes the item at an index, with nothing put in up to it; an index below zero counts from the
end, and one before the first item makes room in front. -/
def updateItem (index : Int) (f : Setting → Setting) (vs : List Setting) : List Setting :=
  let padded :=
    if index < -(vs.length : Int) then List.replicate (index.natAbs - vs.length) none ++ vs
    else vs ++ List.replicate (index.toNat + 1 - vs.length) none
  let place := if index < 0 then (vs.length : Int) + index else index
  padded.modify place.toNat f

/-! ## Merging -/

/-- A table with the same fields, where anything else counts as a new one. -/
def toTable (v : Setting) (change : List (String × Setting) → List (String × Setting)) : Setting :=
  match v with
  | .table o fs => .table o (change fs)
  | _ => .table .none (change [])

def toList (v : Setting) (change : List Setting → List Setting) : Setting :=
  match v with
  | .list o vs => .list o (change vs)
  | _ => .list .none (change [])

mutual
/-- What is left of the second value once the first is laid over it. -/
def merge (incoming : Setting) (target : Setting) : Setting :=
  match incoming with
  | .table _ fs => target.toTable (mergeFields fs)
  | .list o vs => .list o vs
  | .scalar o x => .scalar o x

def mergeFields (incoming : List (String × Setting)) (target : List (String × Setting)) :
    List (String × Setting) :=
  match incoming with
  | [] => target
  | (n, v) :: rest => mergeFields rest (update n (merge v) target)
end

end Setting

/-! ## Paths -/

inductive SettingStep where
  | key (name : String)
  | index (position : Int)
deriving DecidableEq

namespace SettingPath

/-- Steps as a message shows them. -/
def textFrom (afterKey : Bool) : List SettingStep → String
  | [] => ""
  | .key n :: rest => (if afterKey then "." else "") ++ n ++ textFrom true rest
  | .index i :: rest => "[" ++ Numeral.intText i ++ "]" ++ textFrom false rest

def text (steps : List SettingStep) : String := textFrom false steps

/-! ### Reading -/

def isNameChar (c : Char) : Bool := c.isAlphanum || c == '_' || c == '-'

/-- A name at the front of a text, and the rest. -/
def readName (cs : List Char) : Option (String × List Char) :=
  let name := cs.takeWhile isNameChar
  if name.isEmpty then .none else .some (String.ofList name, cs.dropWhile isNameChar)

/-- A number between brackets, of which the first is read. -/
def readIndex (cs : List Char) : Option (Int × List Char) :=
  let isBlank := fun c => c == ' ' || c == '\t'
  let body := cs.takeWhile (· != ']')
  let number := ((body.dropWhile isBlank).reverse.dropWhile isBlank).reverse
  match cs.dropWhile (· != ']') with
  | _ :: rest => if number.head? = .some '+' then .none else (Numeral.int64? number).map (·, rest)
  | [] => .none

/-- The steps after the first name; `fuel` bounds their number. -/
def readSteps : (fuel : Nat) → List Char → Option (List SettingStep)
  | _, [] => .some []
  | 0, _ => .none
  | fuel + 1, '.' :: cs =>
    (readName cs).bind fun (n, r) => (readSteps fuel r).map (.key n :: ·)
  | fuel + 1, '[' :: cs =>
    (readIndex cs).bind fun (i, r) => (readSteps fuel r).map (.index i :: ·)
  | _, _ => .none

/-- Reads names with points between them and numbers in brackets after them. -/
def ofText? (s : String) : Option (List SettingStep) :=
  (readName s.toList).bind fun (n, r) => (readSteps r.length r).map (.key n :: ·)

/-- The steps that a key stands for: those of its path, or itself where it is none. -/
def ofKey (key : String) : List SettingStep := (ofText? key).getD [.key key]

end SettingPath

namespace Setting

/-- Lays a value over what is found along a path, which is made where it is missing. -/
def mergeAt (incoming : Setting) : List SettingStep → Setting → Setting
  | [], target => merge incoming target
  | .key n :: rest, target => target.toTable (update n (mergeAt incoming rest))
  | .index i :: rest, target => target.toList (updateItem i (mergeAt incoming rest))

/-- Lays a layer over a tree: each of its keys is a path. -/
def overlay (tree : Setting) (layer : List (String × Setting)) : Setting :=
  layer.foldl (fun t f => mergeAt f.2 (SettingPath.ofKey f.1) t) tree

end Setting
end MarketSearch
