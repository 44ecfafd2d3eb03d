/-
What becomes of a request that a client sends to a server.
-/
import MarketSearch.Http.Status
import MarketSearch.Http.Url
import MarketSearch.Text.Charset

namespace MarketSearch

/-- How a body comes to its end: as announced, too early, or not at all. -/
inductive BodyEnd where
  | whole
  | cut
  | stalled
deriving DecidableEq

structure ServerAnswer where
  status : Nat
  contentType : Option String
  body : Bytes
  bodyEnd : BodyEnd
deriving DecidableEq

namespace ServerAnswer

/-- Whether the body goes on for ever. -/
def stalls (a : ServerAnswer) : Bool := Status.hasBody a.status && a.bodyEnd == .stalled

/-- The bytes of a body that ends as announced. -/
def content? (a : ServerAnswer) : Option Bytes :=
  if !Status.hasBody a.status then .some []
  else
    match a.bodyEnd with
    | .whole => .some a.body
    | _ => .none

/-- The body as text, which is empty where the body does not end as announced. -/
def text (a : ServerAnswer) : String :=
  match a.content? with
  | .some bs => ((a.contentType.map Charset.ofContentType).getD .utf8).text bs
  | .none => ""

end ServerAnswer

/-- The server is not there, ends the connection without an answer, says nothing, or answers. -/
inductive Exchange where
  | refused
  | closed
  | silent
  | answered (answer : ServerAnswer)
deriving DecidableEq

/-- Whether the server has read the request. -/
def Exchange.isHeard : Exchange → Bool
  | .refused => false
  | _ => true

/-- What every address leads to. -/
abbrev Network := Url → Exchange

/-- The network in which no server is there. -/
def Network.unreachable : Network := fun _ => .refused

end MarketSearch
