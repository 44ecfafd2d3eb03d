/-
Form data: named texts in the query of an address.

A space is written as a plus sign; letters, digits and `*-._` stand for
themselves, and all else is percent-encoded.  Reading takes any text: what is
no UTF-8 after decoding becomes replacement characters.
-/
import MarketSearch.Text.Percent
import MarketSearch.Text.Split

namespace MarketSearch
namespace Form

/-! ## Writing -/

def isLiteral (b : UInt8) : Bool :=
  let n := b.toNat
  (48 ≤ n && n ≤ 57) || (65 ≤ n && n ≤ 90) || (97 ≤ n && n ≤ 122) ||
    n == 42 || n == 45 || n == 46 || n == 95

def encodeByte (b : UInt8) : List Char :=
  if b = 32 then ['+'] else Percent.encode isLiteral [b]

def encodeText (cs : List Char) : List Char := (Utf8.encode cs).flatMap encodeByte

def encodePair (p : String × String) : List Char :=
  encodeText p.1.toList ++ '=' :: encodeText p.2.toList

/-- The pairs one after the other, ampersands between them. -/
def encode : List (String × String) → List Char
  | [] => []
  | [p] => encodePair p
  | p :: ps => encodePair p ++ '&' :: encode ps

/-! ## Reading -/

def plusToSpace (b : UInt8) : UInt8 := if b = 43 then 32 else b

def decodeText (cs : List Char) : String :=
  Utf8.toTextLossy (Percent.decode ((Utf8.encode cs).map plusToSpace))

/-- A pair is cut at its first equals sign; without one it is a name with an empty text. -/
def decodePair (cs : List Char) : String × String :=
  match Text.splitFirst? '=' cs with
  | .some (name, value) => (decodeText name, decodeText value)
  | .none => (decodeText cs, "")

/-- The pairs of a query; pieces with nothing in them are none. -/
def decode (cs : List Char) : List (String × String) :=
  ((Text.splitAll '&' cs).filter (!·.isEmpty)).map decodePair

end Form
end MarketSearch
