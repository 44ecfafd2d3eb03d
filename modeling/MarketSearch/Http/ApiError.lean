/-
Errors as clients of the service see them: a status, and the path and a
message as data.
-/
import MarketSearch.Http.Message
import MarketSearch.Search
import MarketSearch.Token.Verifier

namespace MarketSearch

structure ApiError where
  status : Nat
  path : String
  message : String
deriving DecidableEq

namespace ApiError

def unprocessable (path message : String) : ApiError := ⟨422, path, message⟩

/-- A search that took longer than so many microseconds, of which the message counts whole
thousands. -/
def timeout (path : String) (limit : Nat) : ApiError :=
  ⟨408, path, "Request timed out after " ++ Numeral.text (limit / 1000) ++ "ms"⟩

def ofSearch (path : String) : SearchError → ApiError
  | .invalidInput m => ⟨422, path, m⟩
  | .notFound m => ⟨404, path, m⟩

def authStatus : AuthFault → Nat
  | .missingScope _ => 403
  | _ => 401

def ofAuth (path : String) (f : AuthFault) : ApiError := ⟨authStatus f, path, f.message⟩

def json (e : ApiError) : Json := .obj [("path", .str e.path), ("message", .str e.message)]

def response (e : ApiError) : Response := .ofJson e.status e.json

end ApiError
end MarketSearch
