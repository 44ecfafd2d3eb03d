/-
Taking values apart: a decoder expects a shape and says what it found where
the shape is another.

A record of named fields is read from an object, its fields in the order they
come and unknown ones passed over, or from an array of its fields in their own
order.  The record starts from a given value and every field read is set in
it, so that a missing field keeps what the start had.
-/
import MarketSearch.Decimal.Binary
import MarketSearch.Json.Reader
import MarketSearch.Layout
import MarketSearch.Text.Quoted

namespace MarketSearch
namespace Json

/-- Why a value does not have the shape expected. -/
inductive Mismatch where
  | kind (found : Json) (expected : String)
  | value (found : Json) (expected : String)
  | length (found : Nat) (expected : String)
  | missing (field : String)
  | repeated (field : String)
  | variant (found : String) (known : List String)

/-- What a message calls a value. -/
def describe : Json → String
  | .null => "null"
  | .bool b => "boolean `" ++ (if b then "true" else "false") ++ "`"
  | .int n => "integer `" ++ Numeral.intText n ++ "`"
  | .float x => "floating point `" ++ x.dataText ++ "`"
  | .str s => "string " ++ Text.quoted s
  | .arr _ => "sequence"
  | .obj _ => "map"

/-- The names of an enumeration, as a message lists them. -/
def listNames (names : List String) : String :=
  let ticked := names.map fun n => "`" ++ n ++ "`"
  match ticked with
  | [a, b] => a ++ " or " ++ b
  | [a] => a
  | _ => "one of " ++ ", ".intercalate ticked

def Mismatch.message : Mismatch → String
  | .kind v e => "invalid type: " ++ v.describe ++ ", expected " ++ e
  | .value v e => "invalid value: " ++ v.describe ++ ", expected " ++ e
  | .length n e => "invalid length " ++ Numeral.text n ++ ", expected " ++ e
  | .missing f => "missing field `" ++ f ++ "`"
  | .repeated f => "duplicate field `" ++ f ++ "`"
  | .variant s known => "unknown variant `" ++ s ++ "`, expected " ++ listNames known

abbrev Decoder (α : Type) := Json → Except Mismatch α

/-! ## Single values -/

def string : Decoder String
  | .str s => .ok s
  | v => .error (.kind v "a string")

def boolean : Decoder Bool
  | .bool b => .ok b
  | v => .error (.kind v "a boolean")

/-- A whole number from `low` to `high`; `name` is what messages call the range. -/
def whole (name : String) (low high : Int) : Decoder Int
  | .int n => if low ≤ n ∧ n ≤ high then .ok n else .error (.value (.int n) name)
  | v => .error (.kind v name)

def unsigned (name : String) (bits : Nat) : Decoder Nat := fun v =>
  (whole name 0 (Nat.pow 2 bits - 1) v).map Int.toNat

def unsigned64 : Decoder Nat := unsigned "u64" 64

def unsigned32 : Decoder Nat := unsigned "u32" 32

def unsigned16 : Decoder Nat := unsigned "u16" 16

/-- A count of things. -/
def size : Decoder Nat := unsigned "usize" 64

def signed64 : Decoder Int := whole "i64" (-(Nat.pow 2 63)) (Nat.pow 2 63 - 1)

def optional {α : Type} (item : Decoder α) : Decoder (Option α)
  | .null => .ok .none
  | v => (item v).map .some

def list {α : Type} (item : Decoder α) : Decoder (List α)
  | .arr vs => vs.mapM item
  | v => .error (.kind v "a sequence")

/-- A decimal: a whole number, a text, or a binary number by its shortest digits. -/
def decimal : Decoder Decimal := fun v =>
  let expected := "a Decimal type representing a fixed-point number"
  let orRefuse : Option Decimal → Except Mismatch Decimal
    | .some d => .ok d
    | .none => .error (.value v expected)
  match v with
  | .int n => orRefuse (Decimal.ofInt? n)
  | .float x => orRefuse (Decimal.ofText? x.plainText)
  | .str s => orRefuse (Decimal.ofText? s)
  | _ => .error (.kind v expected)

/-- One of several names, as a string or as an object whose one field has the name and holds
nothing. -/
def choice {α : Type} (names : List (String × α)) : Decoder α := fun v =>
  let named (s : String) : Except Mismatch α :=
    match names.lookup s with
    | .some a => .ok a
    | .none => .error (.variant s (names.map (·.1)))
  match v with
  | .str s => named s
  | .obj [(s, content)] =>
    match named s, content with
    | .ok a, .null => .ok a
    | .ok _, c => .error (.kind c "unit")
    | .error e, _ => .error e
  | .obj fields => .error (.value (.obj fields) "map with a single key")
  | v => .error (.kind v "string or map")

/-! ## Records -/

/-- A kind of record as it is read from data. -/
abbrev Layout (σ : Type) := MarketSearch.Layout Json Mismatch σ

namespace Layout

variable {σ : Type}

/-- Sets fields in their order from items, `i` of which have been used. -/
def ofItems (l : Layout σ) : List (Field Json Mismatch σ) → (i : Nat) → σ → List Json →
    Except Mismatch σ
  | [], _, r, [] => .ok r
  | [], i, _, vs => .error (.length (i + vs.length) "fewer elements in array")
  | f :: fs, i, r, [] =>
    if f.trailing then ofItems l fs (i + 1) r [] else .error (.length i l.listName)
  | f :: fs, i, r, v :: vs => (f.set v r).bind fun r => ofItems l fs (i + 1) r vs

/-- Reads a record, starting from the one given. -/
def decode (l : Layout σ) (start : σ) : Decoder σ
  | .obj fields => l.setAll start fields
  | .arr items => l.ofItems l.fields 0 start items
  | v => .error (.kind v ("struct " ++ l.name))

/-- The first known field that is given twice. -/
def repeated? (l : Layout σ) (fields : List (String × Json)) : Option String :=
  (l.fields.find? fun f => 1 < (fields.filter (·.1 == f.name)).length).map (·.name)

/-- As `decode`, for a value as read from a text: a known field given twice is refused. -/
def decodeOnce (l : Layout σ) (start : σ) : Decoder σ := fun v =>
  match v with
  | .obj fields =>
    match l.repeated? fields with
    | .some name => .error (.repeated name)
    | .none => l.decode start v
  | v => l.decode start v

end Layout

/-- How data is read. -/
def reading : Reading Json Mismatch where
  text := string
  flag := boolean
  count16 v := (unsigned16 v).map UInt16.ofNat
  count64 v := (unsigned64 v).map UInt64.ofNat
  size v := (size v).map UInt64.ofNat
  optional := optional
  choice _ names := choice names
  record l start := Layout.decode l start
  missing := .missing

end Json
end MarketSearch
