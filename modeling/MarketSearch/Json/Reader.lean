/-
Reading values.

The grammar is the standard one, and on top of it a text is refused when
arrays and objects nest deeper than `maxDepth`, when a number is beyond the
largest binary one, and when an escaped surrogate stands alone.  A number
without point and exponent is a whole number if it fits 64 bits, signed or
not.  Any other is computed from its leading digits, as many as fit 64 bits
unsigned, and one division or multiplication by a power of ten, so that its
last binary digit may differ from the closest number.
-/
import MarketSearch.Json.Basic

namespace MarketSearch
namespace Json

/-- The deepest nesting of arrays and objects that is read. -/
def maxDepth : Nat := 127

def isSpace (c : Char) : Bool := c == ' ' || c == '\t' || c == '\n' || c == '\r'

def skipSpace (cs : List Char) : List Char := cs.dropWhile isSpace

/-! ## Strings -/

/-- Four hexadecimal digits. -/
def hex4? : List Char → Option (Nat × List Char)
  | a :: b :: c :: d :: cs => (Numeral.value? 16 [a, b, c, d]).map fun n => (n, cs)
  | _ => .none

def isHighSurrogate (n : Nat) : Bool := 0xD800 ≤ n && n ≤ 0xDBFF

def isLowSurrogate (n : Nat) : Bool := 0xDC00 ≤ n && n ≤ 0xDFFF

/-- The character of an escape whose first four digits are read: itself, or a pair of
surrogates. -/
def readEscapedUnit (n : Nat) (cs : List Char) : Option (Char × List Char) :=
  if isHighSurrogate n then
    match cs with
    | '\\' :: 'u' :: r =>
      (hex4? r).bind fun (low, r) =>
        if isLowSurrogate low then
          .some (Char.ofNat (0x10000 + (n - 0xD800) * 0x400 + (low - 0xDC00)), r)
        else .none
    | _ => .none
  else if isLowSurrogate n then .none
  else .some (Char.ofNat n, cs)

/-- The character of an escape, after the backslash. -/
def readEscape : List Char → Option (Char × List Char)
  | '"' :: cs => .some ('"', cs)
  | '\\' :: cs => .some ('\\', cs)
  | '/' :: cs => .some ('/', cs)
  | 'b' :: cs => .some ('\x08', cs)
  | 'f' :: cs => .some ('\x0c', cs)
  | 'n' :: cs => .some ('\n', cs)
  | 'r' :: cs => .some ('\r', cs)
  | 't' :: cs => .some ('\t', cs)
  | 'u' :: cs => (hex4? cs).bind fun (n, r) => readEscapedUnit n r
  | _ => .none

/-- The characters of a string after its opening quote; `fuel` bounds their number. -/
def readStringBody : (fuel : Nat) → List Char → Option (List Char × List Char)
  | 0, _ => .none
  | _, [] => .none
  | fuel + 1, c :: cs =>
    if c = '"' then .some ([], cs)
    else if c = '\\' then
      (readEscape cs).bind fun (d, r) =>
        (readStringBody fuel r).map fun (ds, r) => (d :: ds, r)
    else if c.toNat < 0x20 then .none
    else (readStringBody fuel cs).map fun (ds, r) => (c :: ds, r)

def readString (cs : List Char) : Option (String × List Char) :=
  match cs with
  | '"' :: r => (readStringBody (r.length + 1) r).map fun (ds, r) => (String.ofList ds, r)
  | _ => .none

/-! ## Numbers -/

/-- The parts of a numeral: sign, whole digits, digits after the point if there is one, and the
exponent with its sign if there is one. -/
structure Numeric where
  negative : Bool
  whole : List Char
  fraction : Option (List Char)
  exponent : Option (Bool × List Char)

def splitDigits (cs : List Char) : List Char × List Char := cs.span Char.isDigit

def readFraction (cs : List Char) : Option (Option (List Char) × List Char) :=
  match cs with
  | '.' :: r =>
    let (ds, r) := splitDigits r
    if ds.isEmpty then .none else .some (.some ds, r)
  | _ => .some (.none, cs)

def readExponent (cs : List Char) : Option (Option (Bool × List Char) × List Char) :=
  match cs with
  | c :: r =>
    if c = 'e' ∨ c = 'E' then
      let (negative, r) := match r with
        | '-' :: r => (true, r)
        | '+' :: r => (false, r)
        | r => (false, r)
      let (ds, r) := splitDigits r
      if ds.isEmpty then .none else .some (.some (negative, ds), r)
    else .some (.none, cs)
  | [] => .some (.none, cs)

/-- Splits a numeral off the front; a leading zero stands alone. -/
def readNumeric (cs : List Char) : Option (Numeric × List Char) :=
  let (negative, r) := match cs with
    | '-' :: r => (true, r)
    | r => (false, r)
  let (whole, r) := splitDigits r
  if whole.isEmpty ∨ (whole.head? = .some '0' ∧ 1 < whole.length) then .none
  else
    (readFraction r).bind fun (fraction, r) =>
      (readExponent r).map fun (exponent, r) => (⟨negative, whole, fraction, exponent⟩, r)

/-- Adds digits to a significand while it stays below `2^64`; also how many digits were left. -/
def takeDigits (n : Nat) : List Char → Nat × Nat
  | [] => (n, 0)
  | c :: cs =>
    let next := n * 10 + (c.toNat - 48)
    if next < Nat.pow 2 64 then takeDigits next cs else (n, (c :: cs).length)

def powerOfTen (n : Nat) : Binary64 := .ofNat (Nat.pow 10 n)

/-- `x * 10^e`, one power of at most `10^308` at a time; none beyond the largest number. -/
def scaleBy (x : Binary64) (e : Int) : (fuel : Nat) → Option Binary64
  | 0 => .none
  | fuel + 1 =>
    if e.natAbs ≤ 308 then
      if e < 0 then .some (x.div (powerOfTen e.natAbs))
      else
        let y := x.mul (powerOfTen e.natAbs)
        if y.isFinite then .some y else .none
    else if x.isZero then .some x
    else if 0 ≤ e then .none
    else scaleBy (x.div (powerOfTen 308)) (e + 308) fuel

def applySign (negative : Bool) (x : Binary64) : Binary64 := if negative then x.neg else x

/-- The largest exponent whose digits are added up. -/
def exponentLimit : Nat := Nat.pow 2 31 - 1

/-- The number that a numeral with a point, an exponent or too many digits stands for. -/
def Numeric.float? (t : Numeric) : Option Binary64 :=
  let (n, dropped) := takeDigits 0 t.whole
  let fraction := t.fraction.getD []
  let (n, left) := takeDigits n fraction
  let shift : Int := (dropped : Int) - ((fraction.length - left : Nat) : Int)
  -- an exponent below the bound has emptied the number before it is used up
  let finish (e : Int) := (scaleBy (.ofNat n) (max e (-2400)) 8).map (applySign t.negative)
  match t.exponent with
  | .none => finish shift
  | .some (down, ds) =>
    let e := (Numeral.value? 10 ds).getD 0
    if exponentLimit < e then
      if n = 0 ∨ down then .some (applySign t.negative .zero) else .none
    else if down then finish (shift - e)
    else finish (shift + e)

/-- The value of a numeral. -/
def Numeric.value? (t : Numeric) : Option Json :=
  let whole? :=
    match t.fraction, t.exponent with
    | .none, .none => Numeral.value? 10 t.whole
    | _, _ => .none
  match whole? with
  | .some n =>
    if t.negative then
      if n = 0 then .some (.float (.finite true 0 0))
      else if n ≤ Nat.pow 2 63 then .some (.int (-(n : Int)))
      else t.float?.map .float
    else if n < Nat.pow 2 64 then .some (.int n)
    else t.float?.map .float
  | .none => t.float?.map .float

def readNumber (cs : List Char) : Option (Json × List Char) :=
  (readNumeric cs).bind fun (t, r) => t.value?.map fun v => (v, r)

/-! ## Arrays and objects -/

section

variable {α ν : Type} (name : List Char → Option (ν × List Char)) (item : List Char → Option (α × List Char))

/-- The items of an array after an item or the opening bracket has been read; `fuel` bounds their
number. -/
def readItems : (fuel : Nat) → List Char → Option (List α × List Char)
  | 0, _ => .none
  | fuel + 1, cs =>
    (item cs).bind fun (v, r) =>
      match skipSpace r with
      | ']' :: r => .some ([v], r)
      | ',' :: r => (readItems fuel r).map fun (vs, r) => (v :: vs, r)
      | _ => .none

/-- A name, a colon and a value. -/
def readField (cs : List Char) : Option ((ν × α) × List Char) :=
  (name (skipSpace cs)).bind fun (n, r) =>
    match skipSpace r with
    | ':' :: r => (item r).map fun (v, r) => ((n, v), r)
    | _ => .none

def readFields : (fuel : Nat) → List Char → Option (List (ν × α) × List Char)
  | 0, _ => .none
  | fuel + 1, cs =>
    (readField name item cs).bind fun (f, r) =>
      match skipSpace r with
      | '\x7d' :: r => .some ([f], r)
      | ',' :: r => (readFields fuel r).map fun (fs, r) => (f :: fs, r)
      | _ => .none

/-- What is left of an array after its opening bracket. -/
def readArray (cs : List Char) : Option (List α × List Char) :=
  match skipSpace cs with
  | ']' :: r => .some ([], r)
  | r => readItems item (r.length + 1) r

def readObject (cs : List Char) : Option (List (ν × α) × List Char) :=
  match skipSpace cs with
  | '\x7d' :: r => .some ([], r)
  | r => readFields name item (r.length + 1) r

end

/-! ## Values -/

/-- How the scalars and the names in a text are read, and what is made of its arrays and objects. -/
structure Builder (ν α : Type) where
  scalar : List Char → Option (α × List Char)
  name : List Char → Option (ν × List Char)
  arr : List α → α
  obj : List (ν × α) → α

namespace Builder

variable {ν α : Type} (b : Builder ν α)

/-- A value nested at most `depth` deep, and the text after it. -/
def readValue : (depth : Nat) → List Char → Option (α × List Char)
  | 0, cs =>
    match skipSpace cs with
    | '[' :: _ => .none
    | '\x7b' :: _ => .none
    | r => b.scalar r
  | depth + 1, cs =>
    match skipSpace cs with
    | '[' :: r => (readArray (readValue depth) r).map fun (vs, r) => (b.arr vs, r)
    | '\x7b' :: r => (readObject b.name (readValue depth) r).map fun (fs, r) => (b.obj fs, r)
    | r => b.scalar r

/-- Reads a text that holds one value and nothing else but space around it. -/
def read? (depth : Nat) (cs : List Char) : Option α :=
  match b.readValue depth cs with
  | .some (v, r) => if (skipSpace r).isEmpty then .some v else .none
  | .none => .none

end Builder

/-- A value that is neither array nor object, from its first character on. -/
def readScalar (cs : List Char) : Option (Json × List Char) :=
  match cs with
  | 'n' :: 'u' :: 'l' :: 'l' :: r => .some (.null, r)
  | 't' :: 'r' :: 'u' :: 'e' :: r => .some (.bool true, r)
  | 'f' :: 'a' :: 'l' :: 's' :: 'e' :: r => .some (.bool false, r)
  | '"' :: _ => (readString cs).map fun (s, r) => (.str s, r)
  | _ => readNumber cs

/-- How values are read. -/
def values : Builder String Json := ⟨readScalar, readString, .arr, .obj⟩

/-- The value of a text. -/
def ofChars? (cs : List Char) : Option Json := values.read? maxDepth cs

/-- The value of a text with its fields as written. -/
def ofText? (s : String) : Option Json := ofChars? s.toList

/-- The value of a text, its objects sorted and without duplicates. -/
def parse? (s : String) : Option Json := (ofText? s).map canonical

end Json
end MarketSearch
