/-
White space, and what is read around it: a text without the blanks at its
ends, and the words between them.

The class is the Unicode property White_Space (25 characters), so the next
line, the no-break space and the ideographic space are blank and the
zero-width space is not.
-/
import MarketSearch.Text.Range

namespace MarketSearch
namespace Text

/-- The characters of the Unicode property White_Space. -/
def blankRanges : List (Nat × Nat) :=
  [(0x09, 0x0D), (0x20, 0x20), (0x85, 0x85), (0xA0, 0xA0), (0x1680, 0x1680), (0x2000, 0x200A),
   (0x2028, 0x2029), (0x202F, 0x202F), (0x205F, 0x205F), (0x3000, 0x3000)]

def isBlank (c : Char) : Bool := inRanges blankRanges c.toNat

/-! ## The ends of a text -/

def trimStart (cs : List Char) : List Char := cs.dropWhile isBlank

def trimEnd (cs : List Char) : List Char := (cs.reverse.dropWhile isBlank).reverse

def trim (cs : List Char) : List Char := trimEnd (trimStart cs)

/-- The text without the blanks at either end. -/
def trimmed (s : String) : String := String.ofList (trim s.toList)

/-- Nothing but blanks, or nothing at all. -/
def isAllBlank (s : String) : Bool := s.toList.all isBlank

/-! ## Words -/

/-- The words of the rest, where `word` (reversed) has been read of the current one. -/
def wordsFrom (word : List Char) : List Char → List (List Char)
  | [] => if word.isEmpty then [] else [word.reverse]
  | c :: cs =>
    if isBlank c then
      if word.isEmpty then wordsFrom [] cs else word.reverse :: wordsFrom [] cs
    else wordsFrom (c :: word) cs

/-- The maximal runs of characters that are not blank, in order. -/
def words (s : String) : List String := (wordsFrom [] s.toList).map String.ofList

end Text
end MarketSearch
