/-
Loading settings: the defaults, a file that may be missing, a file named by a
variable, and the environment, each laid over those before it.
-/
import MarketSearch.Json.Reader
import MarketSearch.Settings.Decoder
import MarketSearch.Settings.EnvFile
import MarketSearch.Settings.Fields
import MarketSearch.Text.Split
import MarketSearch.Toml.Document

namespace MarketSearch

inductive LoadFault where
  | fileSyntax
  | fileMissing (name : String)
  | fileFormat (name : String)
  | setting (fault : SettingFault)
  | invalid (reason : InvalidSettings)
deriving DecidableEq

def LoadFault.message : LoadFault → String
  | .fileSyntax => "failed to load configuration: unreadable file"
  | .fileMissing n => "failed to load configuration: configuration file \"" ++ n ++ "\" not found"
  | .fileFormat n =>
    "failed to load configuration: configuration file \"" ++ n ++
      "\" is not of a registered file format"
  | .setting f => "failed to load configuration: " ++ f.message
  | .invalid i => i.message

namespace Settings

/-! ## Layers -/

/-- The values of a layer by their keys. -/
abbrev Layer := List (String × Setting)

/-- The defaults as a tree. -/
def defaultTree : Setting := .ofJson .none Settings.default.json

/-- Reads the tree of all layers and checks the result. -/
def ofTree (tree : Setting) : Except LoadFault Settings :=
  match Settings.read Setting.reading tree with
  | .error f => .error (.setting f)
  | .ok s =>
    match s.validate with
    | .error i => .error (.invalid i)
    | .ok _ => .ok s

/-- Settings from layers over the defaults, the last of which wins. -/
def ofLayers (layers : List Layer) : Except LoadFault Settings :=
  ofTree (layers.foldl Setting.overlay defaultTree)

/-! ## Files -/

/-- The formats of settings files, by the ends of their names. -/
inductive FileFormat where
  | toml
  | json
deriving DecidableEq

def FileFormat.extension : FileFormat → String
  | .toml => "toml"
  | .json => "json"

def FileFormat.all : List FileFormat := [.toml, .json]

/-- The fields of a file's text. -/
def FileFormat.fields? (f : FileFormat) (text : String) : Option (List (String × Json)) :=
  match f with
  | .toml => Toml.ofText? text
  | .json =>
    match Json.ofChars? (Toml.dropMark text.toList) with
    | .some v =>
      match v.canonical with
      | .obj fs => .some fs
      | _ => .none
    | .none => .none

/-- The files below the working directory, by their paths. -/
abbrev Files := List (String × String)

/-- The parts of a path that lead somewhere. -/
def pathParts (path : String) : List (List Char) :=
  (Text.splitAll '/' path.toList).filter fun p => !p.isEmpty && p != ['.']

/-- A path after steps up have been taken back. -/
def resolve (parts : List (List Char)) : List (List Char) :=
  (parts.foldl (fun acc p => if p = ['.', '.'] then acc.drop 1 else p :: acc) []).reverse

def Files.get? (files : Files) (path : String) : Option String :=
  let wanted := resolve (pathParts path)
  (files.find? fun f => resolve (pathParts f.1) == wanted && !wanted.isEmpty).map (·.2)

/-- A path as messages show it. -/
def shownPath (path : String) : String :=
  "/".intercalate ((pathParts path).map String.ofList)

/-- What follows the last point in the name of a file, if there is something before it. -/
def extension? (path : String) : Option String :=
  ((pathParts path).getLast?.bind (Text.splitLast? '.')).bind fun (stem, ext) =>
    if stem.isEmpty then .none else .some (String.ofList ext)

/-- The file of a name as it is, or with the end of the first format that there is. -/
def findFile (files : Files) (name : String) : Except LoadFault (String × FileFormat × String) :=
  match files.get? name with
  | .some text =>
    match FileFormat.all.find? fun f => extension? name == .some f.extension with
    | .some f => .ok (name, f, text)
    | .none => .error (.fileFormat name)
  | .none =>
    let tries := FileFormat.all.filterMap fun f =>
      let path := name ++ "." ++ f.extension
      (files.get? path).map fun text => (path, f, text)
    match tries with
    | found :: _ => .ok found
    | [] => .error (.fileMissing name)

def fileLayer (path : String) (format : FileFormat) (text : String) : Except LoadFault Layer :=
  match format.fields? text with
  | .some fs => .ok (Setting.ofFields (.some (shownPath path)) fs)
  | .none => .error .fileSyntax

/-- The layer of a file that has to be there. -/
def requiredLayer (files : Files) (name : String) : Except LoadFault Layer :=
  (findFile files name).bind fun (path, format, text) => fileLayer path format text

/-- The layer of a file that is left out if it is not found. -/
def optionalLayer (files : Files) (name : String) : Except LoadFault Layer :=
  match findFile files name with
  | .ok (path, format, text) => fileLayer path format text
  | .error _ => .ok []

/-! ## Loading -/

def defaultFile : String := "config/default"

/-- The variable that names a further file. -/
def fileVariable : String := "PRODUCT_COMPOSITE_CONFIG"

/-- The file of variables. -/
def variablesFile : String := ".env"

/-- The environment with the variables of the file. -/
def environment (files : Files) (env : Environment) : Environment :=
  match files.get? variablesFile with
  | .some text => EnvFile.load env text
  | .none => env

def namedLayer (files : Files) (env : Environment) : Except LoadFault Layer :=
  match env.get? fileVariable with
  | .some name => requiredLayer files name
  | .none => .ok []

/-- The settings of a service that is started among these files with these variables. -/
def load (files : Files) (env : Environment) : Except LoadFault Settings := do
  let env := environment files env
  let base ← optionalLayer files defaultFile
  let named ← namedLayer files env
  ofLayers [base, named, env.layer]

/-- The settings of one text over the defaults. -/
def ofToml (text : String) : Except LoadFault Settings :=
  match Toml.ofText? text with
  | .some fs => ofLayers [Setting.ofFields .none fs]
  | .none => .error .fileSyntax

end Settings
end MarketSearch
