/-
Upper and lower case of a whole text, by the full Unicode mappings.

A letter may become several characters (`ß` is `SS` in upper case), and one
mapping looks at its neighbours: a capital sigma that ends a word becomes the
final sigma.
-/
import MarketSearch.Text.CaseTable

namespace MarketSearch
namespace Text

/-- The other case of a character beyond ASCII, by the tables given. -/
def caseForms (expansions : List (Nat × List Nat)) (runs : List CaseRun) (c : Char) : List Char :=
  match expansions.lookup c.toNat with
  | .some ns => ns.map Char.ofNat
  | .none => [((runs.findSome? (·.partner? c.toNat)).map Char.ofNat).getD c]

def upperForms (c : Char) : List Char :=
  if c.toNat < 0x80 then [c.toUpper] else caseForms upperExpansions upperRuns c

def lowerForms (c : Char) : List Char :=
  if c.toNat < 0x80 then [c.toLower] else caseForms lowerExpansions lowerRuns c

/-- Whether the nearest neighbour that counts is a letter with case. -/
def meetsCased (neighbours : List Char) : Bool :=
  match neighbours.dropWhile fun c => inRanges caseIgnorableRanges c.toNat with
  | [] => false
  | c :: _ => inRanges casedRanges c.toNat

/-- The lower case of the rest of a text whose characters so far, reversed, are `before`. -/
def lowerFrom (before : List Char) : List Char → List Char
  | [] => []
  | c :: cs =>
    (if c = 'Σ' then
      if meetsCased before && !meetsCased cs then ['ς'] else ['σ']
    else lowerForms c) ++ lowerFrom (c :: before) cs

def toLower (s : String) : String := String.ofList (lowerFrom [] s.toList)

def toUpper (s : String) : String := String.ofList (s.toList.flatMap upperForms)

end Text
end MarketSearch
