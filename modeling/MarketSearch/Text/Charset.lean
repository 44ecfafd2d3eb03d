/-
Texts in the encodings that servers name.

A mark at the front of the bytes tells the encoding better than any name, and
is no part of the text.  Bytes that are no text become replacement characters.
A name that is not known means UTF-8.
-/
import MarketSearch.Text.Blank
import MarketSearch.Text.Split
import MarketSearch.Text.Utf8

namespace MarketSearch

inductive Charset where
  | utf8
  | utf16 (bigEndian : Bool)
  | western
deriving DecidableEq

namespace Charset

/-! ## Names -/

def names : Charset → List String
  | .utf8 =>
    ["utf-8", "utf8", "unicode-1-1-utf-8", "unicode11utf8", "unicode20utf8", "x-unicode20utf8"]
  | .utf16 false =>
    ["utf-16", "utf-16le", "csunicode", "iso-10646-ucs-2", "ucs-2", "unicode", "unicodefeff"]
  | .utf16 true => ["utf-16be", "unicodefffe"]
  | .western =>
    ["windows-1252", "cp1252", "x-cp1252", "iso-8859-1", "iso8859-1", "iso88591", "iso_8859-1",
     "iso_8859-1:1987", "iso-ir-100", "latin1", "l1", "csisolatin1", "cp819", "ibm819", "ascii",
     "us-ascii", "ansi_x3.4-1968"]

def ofName (name : List Char) : Charset :=
  let word := String.ofList ((Text.trim name).map Char.toLower)
  ([.utf8, .utf16 false, .utf16 true, .western].find? (·.names.contains word)).getD .utf8

/-- The value of a parameter without the quotes around it. -/
def unquote (cs : List Char) : List Char :=
  match cs with
  | '"' :: rest => rest.takeWhile (· != '"')
  | cs => cs

/-- The encoding that the type of a body names. -/
def ofContentType (value : String) : Charset :=
  let named := ((Text.splitAll ';' value.toList).drop 1).findSome? fun param =>
    match Text.splitFirst? '=' param with
    | .some (name, v) =>
      if (Text.trim name).map Char.toLower == "charset".toList then .some (unquote (Text.trim v))
      else .none
    | .none => .none
  (named.map ofName).getD .utf8

/-! ## Reading -/

/-- The characters of the bytes 128 to 159 in the western encoding. -/
def westernTable : List Nat :=
  [0x20AC, 0x81, 0x201A, 0x192, 0x201E, 0x2026, 0x2020, 0x2021, 0x2C6, 0x2030, 0x160, 0x2039,
   0x152, 0x8D, 0x17D, 0x8F, 0x90, 0x2018, 0x2019, 0x201C, 0x201D, 0x2022, 0x2013, 0x2014, 0x2DC,
   0x2122, 0x161, 0x203A, 0x153, 0x9D, 0x17E, 0x178]

def westernChar (b : UInt8) : Char :=
  let n := b.toNat
  Char.ofNat (if 0x80 ≤ n && n < 0xA0 then westernTable.getD (n - 0x80) n else n)

/-- The units of sixteen bits; a byte too many is none. -/
def units (bigEndian : Bool) : Bytes → List (Option Nat)
  | a :: b :: bs =>
    .some (if bigEndian then a.toNat * 256 + b.toNat else b.toNat * 256 + a.toNat) ::
      units bigEndian bs
  | [_] => [.none]
  | [] => []

def isHigh (n : Nat) : Bool := 0xD800 ≤ n && n ≤ 0xDBFF

def isLow (n : Nat) : Bool := 0xDC00 ≤ n && n ≤ 0xDFFF

/-- The characters of units, of which two surrogates make one. -/
def ofUnits (high : Option Nat) : List (Option Nat) → List Char
  | [] => if high.isSome then ['\ufffd'] else []
  | u :: us =>
    let lone := if high.isSome then ['\ufffd'] else []
    match u with
    | .none => lone ++ '\ufffd' :: ofUnits .none us
    | .some n =>
      if isLow n then
        match high with
        | .some h => Char.ofNat (0x10000 + (h - 0xD800) * 0x400 + (n - 0xDC00)) :: ofUnits .none us
        | .none => '\ufffd' :: ofUnits .none us
      else if isHigh n then lone ++ ofUnits (.some n) us
      else lone ++ Char.ofNat n :: ofUnits .none us

def decode : Charset → Bytes → List Char
  | .utf8, bs => Utf8.decodeLossy bs
  | .utf16 bigEndian, bs => ofUnits .none (units bigEndian bs)
  | .western, bs => bs.map westernChar

/-- The text of bytes, in the encoding of the mark before them if there is one. -/
def text (c : Charset) (bs : Bytes) : String :=
  String.ofList <|
    match bs with
    | 0xEF :: 0xBB :: 0xBF :: rest => decode .utf8 rest
    | 0xFF :: 0xFE :: rest => decode (.utf16 false) rest
    | 0xFE :: 0xFF :: rest => decode (.utf16 true) rest
    | _ => decode c bs

end Charset
end MarketSearch
