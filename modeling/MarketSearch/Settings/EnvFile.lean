/-
Files of environment variables.

An entry is a name, an equals sign and a value, on one line unless quotes keep
it open.  A value may be quoted in parts, singly or doubly; outside single
quotes a backslash escapes and a dollar sign puts in another variable.
Entries are taken in order up to the first that cannot be read, and none
changes a variable that is set already.
-/
import MarketSearch.Settings.Environment
import MarketSearch.Text.Alphanumeric
import MarketSearch.Text.Blank

namespace MarketSearch
namespace EnvFile

/-! ## Lines -/

/-- What the end of a line would cut through. -/
inductive Open where
  | nothing
  | blank
  | escape
  | single
  | singleEscape
  | double
  | doubleEscape
deriving DecidableEq

/-- What is open after one more character. -/
def Open.next (o : Open) (c : Char) : Open :=
  let outside : Open := match c with
    | '\\' => .escape
    | '"' => .double
    | '\'' => .single
    | _ => .nothing
  match o with
  | .nothing => if Text.isBlank c && c != '\n' && c != '\r' then .blank else outside
  | .blank => outside
  | .escape => .nothing
  | .single => match c with
    | '\\' => .singleEscape
    | '\'' => .nothing
    | _ => .single
  | .singleEscape => .single
  | .double => match c with
    | '\\' => .doubleEscape
    | '"' => .nothing
    | _ => .double
  | .doubleEscape => .double

/-- What is open after a line, and the line up to a comment if there is one. -/
def scanLine (o : Open) : List Char → Open × Option (List Char)
  | [] => (o, .none)
  | c :: cs =>
    if o = .blank ∧ c = '#' then (.nothing, .some [])
    else
      let (o, cut) := scanLine (o.next c) cs
      (o, cut.map (c :: ·))

/-- The lines of a text, each with what ends it. -/
def splitLines : List Char → List (List Char)
  | [] => []
  | c :: cs =>
    if c = '\n' then ['\n'] :: splitLines cs
    else
      match splitLines cs with
      | [] => [[c]]
      | l :: ls => (c :: l) :: ls

def startsComment (cs : List Char) : Bool := (Text.trimStart cs).head? = .some '#'

def dropLineEnd (cs : List Char) : List Char :=
  match cs.reverse with
  | '\n' :: '\r' :: r => r.reverse
  | '\n' :: r => r.reverse
  | _ => cs

/-- Lines joined as long as something is open, `started` being the part read already; nothing for
an end of the file that leaves something open. -/
def joinLines (started : List Char) (o : Open) : List (List Char) → List (Option (List Char))
  | [] => if o = .nothing then [] else [.none]
  | line :: rest =>
    let whole := started ++ line
    if startsComment whole then .some [] :: joinLines [] .nothing rest
    else
      match scanLine o line with
      | (_, .some cut) => .some (started ++ cut) :: joinLines [] .nothing rest
      | (.nothing, .none) => .some (dropLineEnd whole) :: joinLines [] .nothing rest
      | (o, .none) => joinLines whole o rest

/-! ## Values -/

/-- A part of a value: a character, or the variable to be put in. -/
inductive Part where
  | char (c : Char)
  | variable (name : List Char)

/-- Where in a value a character stands; the flags say whether within double quotes, the names what
has been read of a variable's name, reversed. -/
inductive Place where
  | plain (quoted : Bool)
  | escape (quoted : Bool)
  | single
  | name (quoted : Bool) (read : List Char)
  | braced (quoted : Bool) (read : List Char)
  | ended

/-- The character that an escape stands for. -/
def escaped? : Char → Option Char
  | 'n' => .some '\n'
  | c => if c = '\\' ∨ c = '\'' ∨ c = '"' ∨ c = '$' ∨ c = ' ' then .some c else .none

/-- The parts of the rest of a value. -/
def readValue : Place → List Char → Option (List Part)
  | .plain quoted, [] => if quoted then .none else .some []
  | .escape quoted, [] => if quoted then .none else .some []
  | .single, [] => .none
  | .name quoted read, [] => if quoted then .none else .some [.variable read.reverse]
  | .braced _ _, [] => .none
  | .ended, [] => .some []
  | .ended, c :: cs =>
    if c = ' ' ∨ c = '\t' then readValue .ended cs
    else if c = '#' then .some []
    else .none
  | .escape quoted, c :: cs =>
    (escaped? c).bind fun d => (readValue (.plain quoted) cs).map (.char d :: ·)
  | .single, c :: cs =>
    if c = '\'' then readValue (.plain false) cs else (readValue .single cs).map (.char c :: ·)
  | .name quoted read, c :: cs =>
    if Text.isAlphanumeric c then readValue (.name quoted (c :: read)) cs
    else if c = '\x7b' ∧ read.isEmpty then readValue (.braced quoted []) cs
    else if c = '$' then
      (readValue (.name quoted []) cs).map (.variable read.reverse :: ·)
    else
      (readValue (.plain quoted) cs).map fun ps => .variable read.reverse :: .char c :: ps
  | .braced quoted read, c :: cs =>
    if c = '\x7d' then (readValue (.plain quoted) cs).map (.variable read.reverse :: ·)
    else readValue (.braced quoted (c :: read)) cs
  | .plain quoted, c :: cs =>
    if c = '$' then readValue (.name quoted []) cs
    else if c = '\\' then readValue (.escape quoted) cs
    else if c = '"' then readValue (.plain !quoted) cs
    else if quoted then (readValue (.plain true) cs).map (.char c :: ·)
    else if c = '\'' then readValue .single cs
    else if c = ' ' ∨ c = '\t' then readValue .ended cs
    else (readValue (.plain false) cs).map (.char c :: ·)

/-! ## Entries -/

structure Entry where
  name : String
  value : List Part

def isNameStart (c : Char) : Bool := c.isAlpha || c == '_'

def isNameChar (c : Char) : Bool := c.isAlphanum || c == '_' || c == '.'

/-- A name, and what follows it after blanks. -/
def readName (cs : List Char) : Option (List Char × List Char) :=
  if cs.head?.any isNameStart then
    .some (cs.takeWhile isNameChar, Text.trimStart (cs.dropWhile isNameChar))
  else .none

/-- An equals sign, and what follows it. -/
def readEquals : List Char → Option (List Char)
  | '=' :: cs => .some cs
  | _ => .none

/-- The name that a line sets and the text of its value; the word `export` may come first. -/
def readAssignment (cs : List Char) : Option (List Char × List Char) := do
  let (name, r) ← readName cs
  match readEquals r with
  | .some r => return (name, r)
  | .none =>
    if name = "export".toList then
      let (name, r) ← readName r
      return (name, ← readEquals r)
    else .none

/-- The entry of a line; a line may hold none, or one that cannot be read. -/
def readLine (cs : List Char) : Option (Option Entry) :=
  let body := Text.trimStart (Text.trimEnd cs)
  if body.isEmpty || body.head? = .some '#' then .some .none
  else do
    let (name, r) ← readAssignment body
    let text := Text.trimStart r
    let parts ← if text.head? = .some '#' then .some [] else readValue (.plain false) text
    return .some ⟨String.ofList name, parts⟩

/-! ## Loading -/

/-- A variable that is set, or else the latest entry of the name. -/
def lookUp (env : Environment) (earlier : List (String × String)) (name : String) : String :=
  ((env.get? name).or (earlier.lookup name)).getD ""

def evaluate (env : Environment) (earlier : List (String × String)) (parts : List Part) : String :=
  String.ofList <| parts.flatMap fun
    | .char c => [c]
    | .variable name => (lookUp env earlier (String.ofList name)).toList

/-- Sets the variables of lines, `earlier` being the entries before them, the latest first. -/
def setLines (env : Environment) (earlier : List (String × String)) :
    List (Option (List Char)) → Environment
  | [] => env
  | line :: rest =>
    match line.bind readLine with
    | .none => env
    | .some .none => setLines env earlier rest
    | .some (.some e) =>
      let value := evaluate env earlier e.value
      setLines (env.setDefault e.name value) ((e.name, value) :: earlier) rest

/-- Sets the variables of a file. -/
def load (env : Environment) (file : String) : Environment :=
  let cs := match file.toList with
    | '\ufeff' :: cs => cs
    | cs => cs
  setLines env [] (joinLines [] .nothing (splitLines cs))

end EnvFile
end MarketSearch
