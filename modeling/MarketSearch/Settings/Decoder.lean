/-
Reading settings from trees of values.

Values are taken generously: texts from any scalar, flags and counts from
numbers and from words.  A fault names the place of the value, and where it
was set if the value itself is to blame.
-/
import MarketSearch.Json.Decoder
import MarketSearch.Settings.Tree
import MarketSearch.Text.Case

namespace MarketSearch

/-! ## Faults -/

inductive SettingProblem where
  | value (found expected : String)
  | length (found : Nat) (expected : String)
  | variant (enumeration found : String)
  | noVariant (enumeration : String)
  | missing
deriving DecidableEq

/-- A problem, the place of the value, and where that was set if it matters. -/
structure SettingFault where
  problem : SettingProblem
  path : List SettingStep
  origin : Option String
deriving DecidableEq

namespace SettingFault

def ofProblem (p : SettingProblem) : SettingFault := ⟨p, [], .none⟩

/-- The fault as seen from outside the value. -/
def inside (step : SettingStep) (f : SettingFault) : SettingFault :=
  { f with path := step :: f.path }

def problemText : SettingProblem → String
  | .value w e => "invalid type: " ++ w ++ ", expected " ++ e
  | .length n e => "invalid length " ++ Numeral.text n ++ ", expected " ++ e
  | .variant e w => "enum " ++ e ++ " does not have variant constructor " ++ w
  | .noVariant e =>
    "value of enum " ++ e ++
      " should be represented by either string or table with exactly one key"
  | .missing => "missing configuration field"

def message (f : SettingFault) : String :=
  let path := SettingPath.text f.path
  match f.problem with
  | .missing => problemText .missing ++ " " ++ Text.quoted path
  | p =>
    problemText p ++ (if path.isEmpty then "" else " for key `" ++ path ++ "`") ++
      (match f.origin with
        | .some o => " in " ++ o
        | .none => "")

end SettingFault

namespace Setting

abbrev Decoder (α : Type) := Setting → Except SettingFault α

/-! ## Scalars -/

def flagText (b : Bool) : String := if b then "true" else "false"

def ticked (kind text : String) : String := kind ++ " `" ++ text ++ "`"

/-- What a message calls a value that could not be taken as it is. -/
def describe : Setting → String
  | .scalar _ .null => "unit value"
  | .scalar _ (.bool b) => ticked "boolean" (flagText b)
  | .scalar _ (.int n) => ticked "64-bit integer" (Numeral.intText n)
  | .scalar _ (.float x) => ticked "floating point" x.plainText
  | .scalar _ (.str s) => "string " ++ Text.quoted s
  | .list .. => "sequence"
  | .table .. => "map"

/-- What a message calls a value that is no record. -/
def describeShape : Setting → String
  | .scalar _ (.int n) => ticked "integer" (Numeral.intText n)
  | .scalar _ (.float x) => ticked "floating point" x.pointedText
  | v => v.describe

def refuse {α : Type} (v : Setting) (found expected : String) : Except SettingFault α :=
  .error ⟨.value found expected, [], v.origin⟩

def text : Decoder String
  | .scalar _ (.bool b) => .ok (flagText b)
  | .scalar _ (.int n) => .ok (Numeral.intText n)
  | .scalar _ (.float x) => .ok x.plainText
  | .scalar _ (.str s) => .ok s
  | v => v.refuse v.describe "a string"

/-- Words for true and false, besides the numerals. -/
def flagWords : List (String × Bool) :=
  [("true", true), ("on", true), ("yes", true), ("false", false), ("off", false), ("no", false)]

def flag : Decoder Bool
  | .scalar _ (.bool b) => .ok b
  | .scalar _ (.int n) => .ok (n != 0)
  | .scalar _ (.float x) => .ok !x.isZero
  | v@(.scalar _ (.str s)) =>
    let word := Text.toLower s
    match (("1", true) :: ("0", false) :: flagWords).lookup word with
    | .some b => .ok b
    | .none => v.refuse ("string " ++ Text.quoted word) "a boolean"
  | v => v.refuse v.describe "a boolean"

def maxCount : Nat := Nat.pow 2 64 - 1

/-- A binary number as a count: rounded, a half upwards, and kept in range. -/
def countOf : Binary64 → Nat
  | .finite false m p => min maxCount (Binary64.roundToNat (.finite false m p))
  | .infinite false => maxCount
  | _ => 0

def countOfText? (s : String) : Option Nat :=
  match flagWords.lookup (Text.toLower s) with
  | .some b => .some b.toNat
  | .none => Numeral.natUpTo? maxCount s.toList

/-- A count of 64 bits. -/
def count : Decoder Nat
  | .scalar _ (.bool b) => .ok b.toNat
  | v@(.scalar _ (.int n)) =>
    if n < 0 then v.refuse v.describe "an unsigned 64 bit or less integer" else .ok n.toNat
  | .scalar _ (.float x) => .ok (countOf x)
  | v@(.scalar _ (.str s)) =>
    match countOfText? s with
    | .some n => .ok n
    | .none => v.refuse v.describe "an integer"
  | v => v.refuse v.describe "an integer"

def count64 : Decoder UInt64 := fun v => (count v).map UInt64.ofNat

def count16 : Decoder UInt16 := fun v =>
  (count v).bind fun n =>
    if n < Nat.pow 2 16 then .ok (UInt16.ofNat n)
    else
      .error <| .ofProblem <|
        .value (ticked "64-bit unsigned integer" (Numeral.text n)) "an unsigned 16 bit integer"

def optional {α : Type} (read : Decoder α) : Decoder (Option α)
  | .scalar _ .null => .ok .none
  | v => (read v).map .some

/-- One of several names, as a text or as the only key of a table. -/
def choice {α : Type} (enumeration : String) (names : List (String × α)) : Decoder α := fun v =>
  let named (s : String) : Except SettingFault α :=
    match names.lookup s with
    | .some a => .ok a
    | .none => .error (.ofProblem (.variant enumeration s))
  match v with
  | .scalar _ (.str s) => named s
  | .table _ [(s, _)] => named s
  | _ => .error (.ofProblem (.noVariant enumeration))

/-! ## Records -/

def within {α : Type} (step : SettingStep) : Except SettingFault α → Except SettingFault α
  | .ok a => .ok a
  | .error f => .error (f.inside step)

def setFields {σ : Type} (l : Layout Setting SettingFault σ) (r : σ) :
    List (String × Setting) → Except SettingFault σ
  | [] => .ok r
  | f :: fs => (within (.key f.1) (l.setNamed r f)).bind fun r => setFields l r fs

/-- Sets fields in their order from items, `i` of which have been used; items left over do not
matter. -/
def setItems {σ : Type} (l : Layout Setting SettingFault σ) :
    List (Field Setting SettingFault σ) → (i : Nat) → σ → List Setting → Except SettingFault σ
  | [], _, r, _ => .ok r
  | f :: fs, i, r, [] =>
    if f.trailing then setItems l fs (i + 1) r [] else .error (.ofProblem (.length i l.listName))
  | f :: fs, i, r, v :: vs =>
    (within (.index i) (f.set v r)).bind fun r => setItems l fs (i + 1) r vs

def record {σ : Type} (l : Layout Setting SettingFault σ) (start : σ) : Decoder σ
  | .table _ fs => setFields l start fs
  | .list _ vs => setItems l l.fields 0 start vs
  | v => .error (.ofProblem (.value v.describeShape ("struct " ++ l.name)))

/-- How settings are read. -/
def reading : Reading Setting SettingFault where
  text := text
  flag := flag
  count16 := count16
  count64 := count64
  size := count64
  optional := optional
  choice := choice
  record := record
  missing field := ⟨.missing, [.key field], .none⟩

end Setting
end MarketSearch
