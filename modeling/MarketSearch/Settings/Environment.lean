/-
Environment variables, and the settings they stand for.

A variable sets one setting: its name, in any letter case, has a prefix, and
double underscores stand between the parts of the path.  The text of a
variable is taken for a flag or a number if it reads as one.
-/
import MarketSearch.Settings.Tree
import MarketSearch.Text.Case

namespace MarketSearch

/-- Variables by name, each name once. -/
abbrev Environment := List (String × String)

namespace Environment

def get? (env : Environment) (name : String) : Option String := env.lookup name

/-- Sets a variable, over one of the same name. -/
def set (env : Environment) (name value : String) : Environment :=
  if (env.get? name).isSome then env.map fun v => if v.1 = name then (name, value) else v
  else env ++ [(name, value)]

/-- Sets a variable unless there is one of the name. -/
def setDefault (env : Environment) (name value : String) : Environment :=
  if (env.get? name).isSome then env else env ++ [(name, value)]

def ofPairs (pairs : List (String × String)) : Environment :=
  pairs.foldl (fun env v => env.set v.1 v.2) []

/-! ## As a layer of settings -/

/-- Where messages say that a variable was set. -/
def origin : String := "the environment"

def settingPrefix : List Char := "product_composite__".toList

/-- A point for every double underscore. -/
def joinParts : List Char → List Char
  | '_' :: '_' :: cs => '.' :: joinParts cs
  | c :: cs => c :: joinParts cs
  | [] => []

/-- The key of the setting that a variable sets, if it sets one. -/
def settingKey? (name : String) : Option String :=
  let cs := (Text.toLower name).toList
  if settingPrefix.isPrefixOf cs then
    .some (String.ofList (joinParts (cs.drop settingPrefix.length)))
  else .none

/-- The text of a variable as a value: a flag, a whole number, a number, or else a text. -/
def valueOf (text : String) : Scalar :=
  let word := Text.toLower text
  if word = "true" then .bool true
  else if word = "false" then .bool false
  else
    match Numeral.int64? text.toList, Binary64.ofText? text with
    | .some n, _ => .int n
    | .none, .some x => .float x
    | .none, .none => .str text

def setting? (v : String × String) : Option (String × Setting) :=
  (settingKey? v.1).map fun key => (key, .scalar (.some origin) (valueOf v.2))

/-- The settings that variables stand for. -/
def layer (env : Environment) : List (String × Setting) := env.filterMap setting?

end Environment
end MarketSearch
