/-
Requests and responses.

The names of headers have no letter case; a response keeps its headers sorted
by name.
-/
import MarketSearch.Json.Writer
import MarketSearch.Text.Split

namespace MarketSearch

/-! ## Requests -/

structure Request where
  method : String
  uri : String
  headers : List (String × String)

namespace Request

/-- What the server is asked for: the path, and the query if there is one. -/
structure Target where
  path : List Char
  query : List Char
deriving DecidableEq

/-- Cuts a query off a path, and a fragment off both. -/
def Target.ofPath (cs : List Char) : Target :=
  let cs := cs.takeWhile (· != '#')
  match Text.splitFirst? '?' cs with
  | .some (path, query) => ⟨path, query⟩
  | .none => ⟨cs, []⟩

/-- What follows `://`, if there is such a mark. -/
def afterScheme? : List Char → Option (List Char)
  | ':' :: '/' :: '/' :: cs => .some cs
  | _ :: cs => afterScheme? cs
  | [] => .none

/-- The target of an address, which may begin with a scheme and a host; with them, a path that is
missing is the root. -/
def Target.ofUri (uri : String) : Target :=
  let cs := uri.toList
  if cs.head? = .some '/' then .ofPath cs
  else
    match afterScheme? cs with
    | .none => .ofPath cs
    | .some rest =>
      let t := Target.ofPath (rest.dropWhile fun c => c != '/' && c != '?' && c != '#')
      if t.path.isEmpty then { t with path := ['/'] } else t

def target (r : Request) : Target := .ofUri r.uri

def path (r : Request) : String := String.ofList r.target.path

/-- The first header of a name in lower case. -/
def header? (r : Request) (name : String) : Option String :=
  (r.headers.find? fun h => h.1.toList.map Char.toLower == name.toList).map (·.2)

end Request

/-! ## Responses -/

structure Response where
  status : Nat
  headers : List (String × String)
  body : String
deriving DecidableEq

namespace Response

def empty (status : Nat) : Response := ⟨status, [], ""⟩

def withHeader (r : Response) (name value : String) : Response :=
  { r with headers := Json.setField name value r.headers }

def withoutBody (r : Response) : Response := { r with body := "" }

def ofJson (status : Nat) (v : Json) : Response :=
  Response.withHeader ⟨status, [], v.text⟩ "content-type" "application/json"

end Response
end MarketSearch
