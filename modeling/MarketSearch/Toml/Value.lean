/-
The values in settings files: strings, numbers, moments, lists and tables.

Moments are texts.  A table between braces is complete; parts of its keys
with points between them make tables in it, which only further such keys may
add to.
-/
import MarketSearch.Json.Basic
import MarketSearch.Toml.Moment
import MarketSearch.Toml.Text

namespace MarketSearch
namespace Toml

/-! ## Numbers -/

/-- Digits that may have single underscores between them, without those. -/
def plainDigits? (base : Nat) (cs : List Char) : Option (List Char) :=
  let isDigit (c : Char) : Bool := (Numeral.digitValue? base c).isSome
  let apart := (cs.zip (cs.drop 1)).all fun (a, b) => isDigit a || isDigit b
  let ends := cs.head?.any isDigit && cs.getLast?.any isDigit
  if ends && apart && cs.all (fun c => isDigit c || c == '_') then .some (cs.filter isDigit)
  else .none

/-- No zero before other digits. -/
def isCanonical : List Char → Bool
  | '0' :: _ :: _ => false
  | _ => true

def maxInt : Int := Nat.pow 2 63 - 1

def int? (n : Int) : Option Json :=
  if -maxInt - 1 ≤ n ∧ n ≤ maxInt then .some (.int n) else .none

/-- A whole number in another base. -/
def based? (base : Nat) (cs : List Char) : Option Json :=
  (plainDigits? base cs).bind fun ds => (Numeral.value? base ds).bind fun n => int? n

/-- A decimal number without its sign: whole digits, and a fraction or an exponent or both. -/
def float? (negative : Bool) (cs : List Char) : Option Json := do
  let isMark := fun c => c == 'e' || c == 'E'
  let body := cs.takeWhile (!isMark ·)
  let whole ← (plainDigits? 10 (body.takeWhile (· != '.'))).filter isCanonical
  let fraction ← match body.dropWhile (· != '.') with
    | [] => .some []
    | _ :: f => plainDigits? 10 f
  let exponent : Int ← match cs.dropWhile (!isMark ·) with
    | [] => .some (0 : Int)
    | _ :: '-' :: e => (plainDigits? 10 e).map fun ds => -(number ds : Int)
    | _ :: '+' :: e => (plainDigits? 10 e).map fun ds => (number ds : Int)
    | _ :: e => (plainDigits? 10 e).map fun ds => (number ds : Int)
  let x ← Binary64.ofParts? negative whole fraction exponent
  if x.isFinite then .some (.float x) else .none

/-- A number by its name or in decimal digits, without its sign. -/
def unsigned? (negative : Bool) (cs : List Char) : Option Json :=
  if cs = ['i', 'n', 'f'] then .some (.float (.infinite negative))
  else if cs = ['n', 'a', 'n'] then .some (.float .nan)
  else if cs.any fun c => c == '.' || c == 'e' || c == 'E' then float? negative cs
  else
    (plainDigits? 10 cs).bind fun ds =>
      if isCanonical ds then int? (if negative then -(number ds : Int) else number ds) else .none

/-- A number. -/
def number? : List Char → Option Json
  | '0' :: 'x' :: cs => based? 16 cs
  | '0' :: 'o' :: cs => based? 8 cs
  | '0' :: 'b' :: cs => based? 2 cs
  | '-' :: cs => unsigned? true cs
  | '+' :: cs => unsigned? false cs
  | cs => unsigned? false cs

def isNumberChar (c : Char) : Bool := c.isAlphanum || c == '+' || c == '-' || c == '.' || c == '_'

/-- A value written as one word. -/
def readWord (cs : List Char) : Option (Json × List Char) :=
  match readMoment cs with
  | .some (m, r) => .some (.str (String.ofList m), r)
  | .none =>
    let word := cs.takeWhile isNumberChar
    let rest := cs.dropWhile isNumberChar
    if word = "true".toList then .some (.bool true, rest)
    else if word = "false".toList then .some (.bool false, rest)
    else (number? word).map (·, rest)

/-! ## Tables under construction -/

/-- An entry of a table: a complete value; a table that is still open, whether it came about only on
the way to another and whether through a key with points; or a list of tables, the last of which
is open. -/
inductive Entry where
  | value (v : Json)
  | table (implicit dotted : Bool) (fields : List (String × Entry))
  | tables (before : List Json) (last : List (String × Entry))

abbrev Entries := List (String × Entry)

mutual
def Entry.json : Entry → Json
  | .value v => v
  | .table _ _ fs => .obj (entriesJson fs)
  | .tables before last => .arr (before ++ [.obj (entriesJson last)])

def entriesJson : List (String × Entry) → List (String × Json)
  | [] => []
  | (n, e) :: fs => (n, e.json) :: entriesJson fs
end

/-- Puts an entry in place of the one of its name, or at the end. -/
def put (name : String) (e : Entry) : Entries → Entries
  | [] => [(name, e)]
  | (n, d) :: fs => if n = name then (name, e) :: fs else (n, d) :: put name e fs

/-- Changes the table at the end of a path, with tables made on the way where there are none.  A
key with points passes only through tables that came about on the way to others.  The change also
learns whether its table is one made by such a key. -/
def along (byKey : Bool) (change : Bool → Entries → Option Entries) :
    (path : List String) → (isDotted : Bool) → Entries → Option Entries
  | [], isDotted, fs => change isDotted fs
  | k :: ks, _, fs =>
    match fs.lookup k with
    | .none =>
      (along byKey change ks byKey []).map fun sub => put k (.table true byKey sub) fs
    | .some (.value _) => .none
    | .some (.table implicit dotted sub) =>
      if byKey && !implicit then .none
      else (along byKey change ks dotted sub).map fun sub => put k (.table implicit dotted sub) fs
    | .some (.tables before last) =>
      (along byKey change ks false last).map fun last => put k (.tables before last) fs

/-- Sets a new key; the parts before its last one lead to tables made by such keys alone. -/
def setKey (path : List String) (v : Json) (fs : Entries) : Option Entries :=
  match path.getLast? with
  | .none => .none
  | .some name =>
    let front := path.dropLast
    let change (isDotted : Bool) (fs : Entries) : Option Entries :=
      if isDotted == front.isEmpty || (fs.lookup name).isSome then .none
      else .some (put name (.value v) fs)
    along true change front false fs

/-! ## Lists and tables -/

/-- The items of a list after its opening bracket; `fuel` bounds their number. -/
def readItems (item : List Char → Option (Json × List Char)) :
    (fuel : Nat) → List Char → Option (List Json × List Char)
  | 0, _ => .none
  | fuel + 1, cs =>
    match skipLayout cs with
    | ']' :: r => .some ([], r)
    | r =>
      (item r).bind fun (v, r) =>
        match skipLayout r with
        | ',' :: r => (readItems item fuel r).map fun (vs, r) => (v :: vs, r)
        | ']' :: r => .some ([v], r)
        | _ => .none

/-- A key, an equals sign and a value. -/
def readPair (item : List Char → Option (Json × List Char)) (cs : List Char) :
    Option ((List String × Json) × List Char) :=
  (readKey cs).bind fun (path, r) =>
    match r with
    | '=' :: r => (item (skipBlanks r)).map fun (v, r) => ((path, v), r)
    | _ => .none

/-- The pairs of a table after its opening brace; `fuel` bounds their number. -/
def readPairs (item : List Char → Option (Json × List Char)) :
    (fuel : Nat) → Entries → List Char → Option (Entries × List Char)
  | 0, _, _ => .none
  | fuel + 1, fs, cs =>
    match skipLayout cs with
    | '\x7d' :: r => .some (fs, r)
    | r =>
      (readPair item r).bind fun ((path, v), r) =>
        (setKey path v fs).bind fun fs =>
          match skipLayout r with
          | ',' :: r => readPairs item fuel fs r
          | '\x7d' :: r => .some (fs, r)
          | _ => .none

/-- The deepest nesting of lists and tables that is read. -/
def maxDepth : Nat := 80

/-- A value that is neither a list nor a table between braces. -/
def readScalar (cs : List Char) : Option (Json × List Char) :=
  if cs.head?.any fun c => c == '"' || c == '\'' then
    (readString cs).map fun (s, r) => (.str (String.ofList s), r)
  else readWord cs

/-- A value nested at most `depth` deep. -/
def readValue : (depth : Nat) → List Char → Option (Json × List Char)
  | depth + 1, '[' :: cs =>
    (readItems (readValue depth) (cs.length + 1) cs).map fun (vs, r) => (.arr vs, r)
  | depth + 1, '\x7b' :: cs =>
    (readPairs (readValue depth) (cs.length + 1) [] cs).map fun (fs, r) =>
      (.obj (entriesJson fs), r)
  | _, cs => readScalar cs

end Toml
end MarketSearch
