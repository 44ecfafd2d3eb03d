/-
Bytes of which only some parts are looked at.

Who knows some fields of a record passes over the others.  They have to be
written in the grammar, but they need not have a value: a number may be beyond
the largest binary one, a surrogate may stand alone, the bytes of a string need
not be characters, and arrays and objects may nest as deep as they like.

So bytes are read as an outline first, which keeps the scalars and the names as
they are written, and a view says which parts of the outline are looked at.
-/
import MarketSearch.Json.Reader
import MarketSearch.Text.Utf8

namespace MarketSearch
namespace Json

/-- The value that bytes are the text of. -/
def ofBytes? (bs : Bytes) : Option Json := (Utf8.decode? bs).bind ofChars?

/-! ## Outlines -/

/-- Arrays and objects, and everything else as it is written. -/
inductive Outline where
  | scalar (text : Bytes)
  | arr (items : List Outline)
  | obj (fields : List (Bytes × Outline))

namespace Outline

/-- A sign for each byte; those of ASCII are the characters themselves. -/
def signs (bs : Bytes) : List Char := bs.map fun b => Char.ofNat b.toNat

def ofSigns (cs : List Char) : Bytes := cs.map fun c => UInt8.ofNat c.toNat

/-- Passes over an escape, after the backslash. -/
def skipEscape : List Char → Option (List Char)
  | 'u' :: cs => (hex4? cs).map (·.2)
  | c :: cs => if ['"', '\\', '/', 'b', 'f', 'n', 'r', 't'].contains c then .some cs else .none
  | [] => .none

/-- Passes over a string after its opening quote; `fuel` bounds its length. -/
def skipStringBody : (fuel : Nat) → List Char → Option (List Char)
  | 0, _ => .none
  | _, [] => .none
  | fuel + 1, c :: cs =>
    if c = '"' then .some cs
    else if c = '\\' then (skipEscape cs).bind (skipStringBody fuel)
    else if c.toNat < 0x20 then .none
    else skipStringBody fuel cs

def skipString : List Char → Option (List Char)
  | '"' :: r => skipStringBody (r.length + 1) r
  | _ => .none

def skipScalar (cs : List Char) : Option (List Char) :=
  match cs with
  | 'n' :: 'u' :: 'l' :: 'l' :: r => .some r
  | 't' :: 'r' :: 'u' :: 'e' :: r => .some r
  | 'f' :: 'a' :: 'l' :: 's' :: 'e' :: r => .some r
  | '"' :: _ => skipString cs
  | _ => (readNumeric cs).map (·.2)

/-- The bytes that have been passed over, and the signs left. -/
def passed (skip : List Char → Option (List Char)) (cs : List Char) : Option (Bytes × List Char) :=
  (skip cs).map fun r => (ofSigns (cs.take (cs.length - r.length)), r)

/-- How outlines are read. -/
def outlines : Builder Bytes Outline where
  scalar cs := (passed skipScalar cs).map fun (text, r) => (.scalar text, r)
  name := passed skipString
  arr := .arr
  obj := .obj

/-- The outline of some bytes, however deep it nests. -/
def ofBytes? (bs : Bytes) : Option Outline := outlines.read? bs.length (signs bs)

/-! ## Values in outlines -/

/-- The value of a scalar. -/
def scalar? (text : Bytes) : Option Json := (Utf8.decode? text).bind (values.read? 0)

def name? (text : Bytes) : Option String :=
  match scalar? text with
  | .some (.str s) => .some s
  | _ => .none

/-- The value of an outline, of which arrays and objects nest at most `depth` deep. -/
def json? : (depth : Nat) → Outline → Option Json
  | _, .scalar text => scalar? text
  | 0, _ => .none
  | depth + 1, .arr items => (items.mapM (json? depth)).map .arr
  | depth + 1, .obj fields =>
    (fields.mapM fun f => (name? f.1).bind fun n => (json? depth f.2).map fun v => (n, v)).map .obj

/-! ## Parts without a value

A reader that puts up with a part that has no value goes on from where it
found that out.  Unless that is the end of the part, it does not find its way
through the rest of the text. -/

/-- Whether an exponent is found too large before its last digit. -/
def isCutShort (t : Numeric) : Bool :=
  match t.exponent with
  | .some (_, ds) => exponentLimit < (Numeral.value? 10 ds.dropLast).getD 0
  | .none => false

/-- Whether nothing is wrong with a string up to its end, where there is the first half of a pair of
surrogates: the second one is looked for past the closing quote. -/
def endsInHalf (cs : List Char) : Bool :=
  let (front, back) := cs.splitAt (cs.length - 7)
  match back with
  | '\\' :: 'u' :: r =>
    match hex4? r with
    | .some (n, ['"']) => isHighSurrogate n && (readString (front ++ ['"'])).any (·.2.isEmpty)
    | _ => false
  | _ => false

/-- Whether a scalar without a value is read to its end. -/
def isReadOver (text : Bytes) : Bool :=
  let cs := signs text
  match cs with
  | '"' :: _ => (readString cs).isSome || endsInHalf cs
  | _ => (readNumeric cs).all fun (t, _) => !isCutShort t

/-- Whether an outline without a value is read to its end: what is wrong with it is at its very
end. -/
def isPassedOver : (depth : Nat) → Outline → Bool
  | _, .scalar text => isReadOver text
  | 0, _ => false
  | depth + 1, .arr items =>
    items.dropLast.all (fun o => (o.json? depth).isSome) && items.getLast?.all (isPassedOver depth)
  | depth + 1, .obj fields =>
    fields.all (fun f => (name? f.1).isSome) &&
      fields.dropLast.all (fun f => (f.2.json? depth).isSome) &&
      fields.getLast?.all fun f => isPassedOver depth f.2

/-- The value of an outline, or null where it has none and is passed over. -/
def orNull? (depth : Nat) (o : Outline) : Option Json :=
  match o.json? depth with
  | .some v => .some v
  | .none => if o.isPassedOver depth then .some .null else .none

/-- Whether there is something inside. -/
def isFilled : Outline → Bool
  | .scalar _ | .arr [] | .obj [] => false
  | _ => true

end Outline

/-! ## Views -/

/-- How an outline is looked at: as a value, as a value if it has one, not into arrays and objects, or
as a record whose fields are looked at each in its way. -/
inductive View where
  | whole
  | tried
  | glanced
  | record (fields : List (String × View))

namespace View

/-- A field as far as it is known. Its name has to be a text in any case. -/
def field? (look : View → Outline → Option Json) (known : List (String × View)) (f : Bytes × Outline) :
    Option (Option (String × Json)) :=
  (Outline.name? f.1).bind fun name =>
    match known.lookup name with
    | .some w => (look w f.2).map fun v => .some (name, v)
    | .none => .some .none

/-- What is seen of an outline, of which the parts looked at nest at most `depth` deep. A record is an
object, or an array of its fields in their order. -/
def see? : (depth : Nat) → View → Outline → Option Json
  | depth, .whole, o => o.json? depth
  | depth, .tried, o => o.orNull? depth
  | depth, .glanced, o => if o.isFilled then .none else o.orNull? depth
  | _, .record _, .scalar text => Outline.scalar? text
  | 0, .record _, _ => .none
  | depth + 1, .record known, .arr items =>
    if known.length < items.length then .none
    else (((known.map (·.2)).zip items).mapM fun p => see? depth p.1 p.2).map .arr
  | depth + 1, .record known, .obj fields =>
    (fields.mapM (field? (see? depth) known)).map fun fs => .obj (fs.filterMap id)

/-- What is seen of some bytes. -/
def ofBytes? (w : View) (bs : Bytes) : Option Json := (Outline.ofBytes? bs).bind (w.see? maxDepth)

end View

end Json
end MarketSearch
