/-
Settings files: lines of keys with values, and of headers that say which
table the keys after them belong to.

A table has one header at most, and a header only adds to what came about on
the way to another table.  A header in double brackets adds a table to a
list.
-/
import MarketSearch.Toml.Value

namespace MarketSearch
namespace Toml

/-! ## Lines -/

inductive Line where
  | header (path : List String)
  | item (path : List String)
  | pair (path : List String) (value : Json)

/-- Passes over the end of a line that has nothing more to say. -/
def endLine (cs : List Char) : Option (List Char) :=
  match skipComment (skipBlanks cs) with
  | [] => .some []
  | r => readNewline r

def readLine (cs : List Char) : Option (Line × List Char) :=
  match cs with
  | '[' :: '[' :: r =>
    (readKey r).bind fun (path, r) =>
      match r with
      | ']' :: ']' :: r => .some (.item path, r)
      | _ => .none
  | '[' :: r =>
    (readKey r).bind fun (path, r) =>
      match r with
      | ']' :: r => .some (.header path, r)
      | _ => .none
  | r => (readPair (readValue maxDepth) r).map fun ((path, v), r) => (.pair path v, r)

/-- All lines that say something; `fuel` bounds their number. -/
def readLines : (fuel : Nat) → List Char → Option (List Line)
  | 0, _ => .none
  | fuel + 1, cs =>
    match skipLayout cs with
    | [] => .some []
    | r =>
      (readLine r).bind fun (line, r) =>
        (endLine r).bind fun r => (readLines fuel r).map (line :: ·)

/-! ## Tables -/

/-- Opens the table of a header. -/
def openTable (name : String) (fs : Entries) : Option Entries :=
  match fs.lookup name with
  | .none => .some (put name (.table false false []) fs)
  | .some (.table true false sub) => .some (put name (.table false false sub) fs)
  | .some _ => .none

/-- Adds a table to a list of tables. -/
def addTable (name : String) (fs : Entries) : Option Entries :=
  match fs.lookup name with
  | .none => .some (put name (.tables [] []) fs)
  | .some (.tables before last) =>
    .some (put name (.tables (before ++ [.obj (entriesJson last)]) []) fs)
  | .some _ => .none

def underHeader (path : List String) (change : String → Entries → Option Entries) (fs : Entries) :
    Option Entries :=
  match path.getLast? with
  | .some name => along false (fun _ => change name) path.dropLast false fs
  | .none => .none

/-- The tables after some lines, the current header being given. -/
def applyLines (header : List String) (fs : Entries) : List Line → Option Entries
  | [] => .some fs
  | .header path :: ls => (underHeader path openTable fs).bind fun fs => applyLines path fs ls
  | .item path :: ls => (underHeader path addTable fs).bind fun fs => applyLines path fs ls
  | .pair path v :: ls =>
    (along false (fun _ => setKey path v) header false fs).bind fun fs => applyLines header fs ls

/-! ## Files -/

/-- Drops a mark of the byte order at the beginning. -/
def dropMark : List Char → List Char
  | '\ufeff' :: cs => cs
  | cs => cs

/-- The fields of a settings file. -/
def ofText? (s : String) : Option (List (String × Json)) :=
  let cs := dropMark s.toList
  ((readLines (cs.length + 1) cs).bind (applyLines [] [])).map entriesJson

end Toml
end MarketSearch
