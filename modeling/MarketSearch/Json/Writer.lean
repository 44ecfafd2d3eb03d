/-
Writing values: compact, fields in their order, strings escaped where the
format demands it and nowhere else.
-/
import MarketSearch.Json.Basic

namespace MarketSearch
namespace Json

/-- The letter after the backslash, for the characters that have one. -/
def escapeLetter? : Char → Option Char
  | '"' => .some '"'
  | '\\' => .some '\\'
  | '\x08' => .some 'b'
  | '\x0c' => .some 'f'
  | '\n' => .some 'n'
  | '\r' => .some 'r'
  | '\t' => .some 't'
  | _ => .none

/-- One character of a string: quotes, backslashes and controls below the space are escaped. -/
def writeChar (c : Char) : List Char :=
  match escapeLetter? c with
  | .some l => ['\\', l]
  | .none =>
    if c.toNat < 0x20 then
      ['\\', 'u', '0', '0', Numeral.digitChar (c.toNat / 16), Numeral.digitChar (c.toNat % 16)]
    else [c]

def writeString (s : String) : List Char := '"' :: (s.toList.flatMap writeChar ++ ['"'])

mutual
def chars : Json → List Char
  | .null => ['n', 'u', 'l', 'l']
  | .bool true => ['t', 'r', 'u', 'e']
  | .bool false => ['f', 'a', 'l', 's', 'e']
  | .int n => Numeral.intChars n
  | .float x => x.dataChars
  | .str s => writeString s
  | .arr items => '[' :: itemChars items
  | .obj fields => '\x7b' :: fieldChars fields

/-- The items, each after its comma, and the closing bracket. -/
def itemChars : List Json → List Char
  | [] => [']']
  | [v] => chars v ++ [']']
  | v :: vs => chars v ++ ',' :: itemChars vs

def fieldChars : List (String × Json) → List Char
  | [] => ['\x7d']
  | [(n, v)] => writeString n ++ ':' :: (chars v ++ ['\x7d'])
  | (n, v) :: fs => writeString n ++ ':' :: (chars v ++ ',' :: fieldChars fs)
end

/-- The text of a value. -/
def text (v : Json) : String := String.ofList v.chars

end Json
end MarketSearch
