/-
The small parts of settings files: blanks, comments, strings and keys.

A reader takes characters from the front of a text and leaves the rest.
-/
import MarketSearch.Numeral

namespace MarketSearch
namespace Toml

/-! ## Between values -/

def isBlank (c : Char) : Bool := c == ' ' || c == '\t'

def skipBlanks (cs : List Char) : List Char := cs.dropWhile isBlank

/-- A control character other than the tab. -/
def isForbidden (c : Char) : Bool := (c.toNat < 0x20 && c != '\t') || c.toNat == 0x7F

/-- The end of a line. -/
def readNewline : List Char → Option (List Char)
  | '\n' :: cs => .some cs
  | '\r' :: '\n' :: cs => .some cs
  | _ => .none

/-- Passes over a comment up to the end of its line. -/
def skipComment (cs : List Char) : List Char :=
  match cs with
  | '#' :: r => r.dropWhile (!isForbidden ·)
  | r => r

/-- Passes over blanks, comments and ends of lines; `fuel` bounds the number of lines. -/
def skipLines : (fuel : Nat) → List Char → List Char
  | 0, cs => cs
  | fuel + 1, cs =>
    let r := skipComment (skipBlanks cs)
    match readNewline r with
    | .some r => skipLines fuel r
    | .none => r

def skipLayout (cs : List Char) : List Char := skipLines (cs.length + 1) cs

/-! ## Escapes -/

/-- A character by its number in so many digits. -/
def readNumbered (digits : Nat) (cs : List Char) : Option (Char × List Char) :=
  if (cs.take digits).length = digits then
    (Numeral.value? 16 (cs.take digits)).bind fun n =>
      if n.isValidChar then .some (Char.ofNat n, cs.drop digits) else .none
  else .none

/-- A character after a backslash. -/
def readEscape : List Char → Option (Char × List Char)
  | 'b' :: cs => .some ('\x08', cs)
  | 't' :: cs => .some ('\t', cs)
  | 'n' :: cs => .some ('\n', cs)
  | 'f' :: cs => .some ('\x0c', cs)
  | 'r' :: cs => .some ('\r', cs)
  | 'e' :: cs => .some ('\x1b', cs)
  | '"' :: cs => .some ('"', cs)
  | '\\' :: cs => .some ('\\', cs)
  | 'x' :: cs => readNumbered 2 cs
  | 'u' :: cs => readNumbered 4 cs
  | 'U' :: cs => readNumbered 8 cs
  | _ => .none

/-! ## Strings on one line -/

/-- The rest of a string between double quotes; `fuel` bounds its length. -/
def readBasic : (fuel : Nat) → List Char → Option (List Char × List Char)
  | 0, _ => .none
  | _, [] => .none
  | fuel + 1, c :: cs =>
    if c = '"' then .some ([], cs)
    else if c = '\\' then
      (readEscape cs).bind fun (d, r) => (readBasic fuel r).map fun (ds, r) => (d :: ds, r)
    else if isForbidden c then .none
    else (readBasic fuel cs).map fun (ds, r) => (c :: ds, r)

/-- The rest of a string between single quotes. -/
def readLiteral : List Char → Option (List Char × List Char)
  | [] => .none
  | c :: cs =>
    if c = '\'' then .some ([], cs)
    else if isForbidden c then .none
    else (readLiteral cs).map fun (ds, r) => (c :: ds, r)

/-! ## Strings on several lines -/

/-- Drops the end of a line right after the opening quotes. -/
def dropNewline (cs : List Char) : List Char := (readNewline cs).getD cs

/-- What three or more quotes in a row mean: the last three close the string, and one or two before
them belong to it. -/
def readClosing (quote : Char) (cs : List Char) : Option (List Char × List Char) :=
  let n := (cs.takeWhile (· == quote)).length
  if n < 3 then .none
  else
    let size := min n 5
    .some (List.replicate (size - 3) quote, cs.drop size)

/-- Passes over the end of a line and all blanks and empty lines after it, if nothing but blanks
comes before it. -/
def skipLineEnd (cs : List Char) : Option (List Char) :=
  (readNewline (skipBlanks cs)).map fun r =>
    r.dropWhile fun c => isBlank c || c == '\n' || c == '\r'

/-- The rest of a string between three double quotes; `fuel` bounds its length. -/
def readBasicLines : (fuel : Nat) → List Char → Option (List Char × List Char)
  | 0, _ => .none
  | _, [] => .none
  | fuel + 1, c :: cs =>
    match readClosing '"' (c :: cs) with
    | .some closed => .some closed
    | .none =>
      if c = '\\' then
        match skipLineEnd cs with
        | .some r => readBasicLines fuel r
        | .none =>
          (readEscape cs).bind fun (d, r) =>
            (readBasicLines fuel r).map fun (ds, r) => (d :: ds, r)
      else if c = '\n' ∨ (c = '\r' ∧ cs.head? = .some '\n') ∨ ¬isForbidden c then
        (readBasicLines fuel cs).map fun (ds, r) => (c :: ds, r)
      else .none

/-- The rest of a string between three single quotes. -/
def readLiteralLines : List Char → Option (List Char × List Char)
  | [] => .none
  | c :: cs =>
    match readClosing '\'' (c :: cs) with
    | .some closed => .some closed
    | .none =>
      if c = '\n' ∨ (c = '\r' ∧ cs.head? = .some '\n') ∨ ¬isForbidden c then
        (readLiteralLines cs).map fun (ds, r) => (c :: ds, r)
      else .none

/-- A string of any kind. -/
def readString (cs : List Char) : Option (List Char × List Char) :=
  match cs with
  | '"' :: '"' :: '"' :: r => readBasicLines (r.length + 1) (dropNewline r)
  | '"' :: r => readBasic (r.length + 1) r
  | '\'' :: '\'' :: '\'' :: r => readLiteralLines (dropNewline r)
  | '\'' :: r => readLiteral r
  | _ => .none

/-! ## Keys -/

def isKeyChar (c : Char) : Bool := c.isAlphanum || c == '_' || c == '-'

/-- One part of a key: a word, or a string on one line. -/
def readKeyPart (cs : List Char) : Option (String × List Char) :=
  let text (r : List Char × List Char) : String × List Char := (String.ofList r.1, r.2)
  match cs with
  | '"' :: r => (readBasic (r.length + 1) r).map text
  | '\'' :: r => (readLiteral r).map text
  | r =>
    let word := r.takeWhile isKeyChar
    if word.isEmpty then .none else .some (text (word, r.dropWhile isKeyChar))

/-- Parts with points between them; `fuel` bounds their number. -/
def readKeyParts : (fuel : Nat) → List Char → Option (List String × List Char)
  | 0, _ => .none
  | fuel + 1, cs =>
    (readKeyPart (skipBlanks cs)).bind fun (k, r) =>
      match skipBlanks r with
      | '.' :: r => (readKeyParts fuel r).map fun (ks, r) => (k :: ks, r)
      | r => .some ([k], r)

/-- A key with the blanks around it. -/
def readKey (cs : List Char) : Option (List String × List Char) := readKeyParts (cs.length + 1) cs

end Toml
end MarketSearch
