/-
Quoted text, for messages: the text between double quotes, with everything
escaped that could be mistaken for the closing quote or cannot be seen.
-/
import MarketSearch.Text.Unprintable
import MarketSearch.Numeral

namespace MarketSearch
namespace Text

/-- The letter after the backslash, for the characters that have one. -/
def escapeLetter? : Char → Option Char
  | '\x00' => .some '0'
  | '\t' => .some 't'
  | '\r' => .some 'r'
  | '\n' => .some 'n'
  | '"' => .some '"'
  | '\\' => .some '\\'
  | _ => .none

/-- One character of a quoted text. -/
def quotedChar (c : Char) : List Char :=
  match escapeLetter? c with
  | .some l => ['\\', l]
  | .none =>
    if isUnprintable c then
      ['\\', 'u', '\x7b'] ++ Numeral.hex c.toNat ++ ['\x7d']
    else [c]

def quotedChars (cs : List Char) : List Char := '"' :: (cs.flatMap quotedChar ++ ['"'])

/-- The text as a message shows it: in double quotes, unseen characters by their number. -/
def quoted (s : String) : String := String.ofList (quotedChars s.toList)

end Text
end MarketSearch
