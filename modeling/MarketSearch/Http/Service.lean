/-
The service: two routes, one for its health and one for searches.

Searches need an access token, which is checked before anything else about
the request.  A request that only asks what is allowed is answered for every
path and without a token, and every response may be read by pages of any
origin.
-/
import MarketSearch.Form
import MarketSearch.Http.ApiError

namespace MarketSearch

/-- An engine, who may use it, and the milliseconds a search may take. -/
structure Service where
  engine : SearchEngine
  verifier : Verifier
  requestTimeout : Nat

/-- The time of a request: seconds for tokens, a text for display. -/
structure Moment where
  seconds : Nat
  timestamp : String

/-- A response, and the sources that were asked for it. -/
structure Handled where
  response : Response
  asked : List Source

/-! ## Access tokens in requests -/

namespace Bearer

def scheme : List Char := "bearer".toList

/-- Whether a character is visible or a space, within ASCII; tabs are, too. -/
def isVisible (c : Char) : Bool := (0x20 ≤ c.toNat && c.toNat < 0x7F) || c == '\t'

/-- The token in the value of an authorization header: what follows the scheme, in any letter
case, and a space. -/
def token? (value : String) : Option String :=
  let cs := value.toList
  if cs.all isVisible && (cs.take scheme.length).map Char.toLower == scheme then
    match cs.drop scheme.length with
    | ' ' :: rest => .some (String.ofList (Text.trimStart rest))
    | _ => .none
  else .none

def ofRequest? (r : Request) : Option String := (r.header? "authorization").bind token?

end Bearer

/-! ## Parameters of a search -/

structure SearchParams where
  query : Option String
  sort : Option String
deriving DecidableEq

namespace SearchParams

/-- The message about a parameter given twice. -/
def duplicate (name : String) : String :=
  "Failed to deserialize query string: duplicate field `" ++ name ++ "`"

def set (p : SearchParams) (field : String × String) : Except String SearchParams :=
  if field.1 = "query" then
    if p.query.isSome then .error (duplicate "query") else .ok { p with query := .some field.2 }
  else if field.1 = "sort" then
    if p.sort.isSome then .error (duplicate "sort") else .ok { p with sort := .some field.2 }
  else .ok p

/-- The parameters among the pairs of a query; others are passed over. -/
def ofPairs (pairs : List (String × String)) : Except String SearchParams :=
  pairs.foldlM set ⟨.none, .none⟩

/-- The direction asked for, ascending by default. -/
def direction (p : SearchParams) : Except UnknownName SortDirection :=
  match p.sort with
  | .some s => SortDirection.ofText? s
  | .none => .ok .ascending

/-- The filter that parameters stand for, or why they stand for none. -/
def filter (p : SearchParams) : Except SearchError Filter :=
  match p.direction with
  | .ok d => .ok ⟨p.query.getD "", d⟩
  | .error u => .error (.invalid u.message)

end SearchParams

/-- The filter in the query of an address. -/
def Filter.ofQuery (query : List Char) : Except SearchError Filter :=
  match SearchParams.ofPairs (Form.decode query) with
  | .ok p => p.filter
  | .error m => .error (.invalid m)

/-! ## Routes -/

inductive Route where
  | health
  | products
deriving DecidableEq

namespace Route

def path : Route → String
  | .health => "/api/v1/health"
  | .products => "/api/v1/products"

def ofPath? (path : String) : Option Route := [health, products].find? (·.path == path)

/-- Whether a method reads; names of methods have letter case. -/
def accepts (method : String) : Bool := method == "GET" || method == "HEAD"

/-- Names the methods that a route accepts. -/
def allow (r : Response) : Response := r.withHeader "allow" "GET,HEAD"

end Route

namespace Service

def health (s : Service) (now : Moment) : Response :=
  .ofJson 200
    (.obj
      [("status", .str "UP"),
       ("sources", .arr (s.engine.registry.sources.map Source.json)),
       ("timestamp", .str now.timestamp)])

/-- Answers a valid request for a search after `turn` searches. -/
def answer (s : Service) (turn : Nat) (path : String) (f : Filter) : Handled :=
  let searched := s.engine.search turn f
  let response :=
    if !searched.asked.isEmpty && s.engine.outlasts s.requestTimeout turn f then
      (ApiError.timeout path (1000 * s.requestTimeout)).response
    else
      match searched.result with
      | .ok report => .ofJson 200 (Product.listJson report.products)
      | .error e => (ApiError.ofSearch path e).response
  ⟨response, searched.asked⟩

/-- A search for whatever the query of the address says. -/
def search (s : Service) (turn : Nat) (r : Request) : Handled :=
  match Filter.ofQuery r.target.query with
  | .ok f => s.answer turn r.path f
  | .error e => ⟨(ApiError.ofSearch r.path e).response, []⟩

/-- Checks the token of a request. -/
def authorize (s : Service) (now : Moment) (r : Request) : Except AuthFault Claims :=
  match Bearer.ofRequest? r with
  | .some token => s.verifier.authorize now.seconds token
  | .none => .error .missingToken

/-- Refuses methods other than the reading ones and names those. -/
def read (method : String) (response : Handled) : Handled :=
  if Route.accepts method then response else ⟨.empty 405, []⟩

/-- The answer of a route, before what is common to all responses. -/
def route (s : Service) (now : Moment) (turn : Nat) (r : Request) : Route → Handled
  | .health => read r.method ⟨s.health now, []⟩
  | .products =>
    match s.authorize now r with
    | .ok _ => read r.method (s.search turn r)
    | .error f => ⟨(ApiError.ofAuth r.path f).response, []⟩

/-- What pages of other origins may do: everything that the service answers. -/
def shared (r : Response) : Response :=
  (r.withHeader "access-control-allow-origin" "*").withHeader "vary"
    "origin, access-control-request-method, access-control-request-headers"

/-- The answer to a request that asks what is allowed. -/
def preflight : Response :=
  ((Response.empty 200).withHeader "access-control-allow-methods" "GET").withHeader
    "access-control-allow-headers" "authorization,content-type"

/-- Answers one request after `turn` searches. -/
def handle (s : Service) (now : Moment) (turn : Nat) (r : Request) : Handled :=
  let route? := Route.ofPath? r.path
  let handled : Handled :=
    if r.method = "OPTIONS" then ⟨preflight, []⟩
    else
      match route? with
      | .some route => s.route now turn r route
      | .none => ⟨.empty 404, []⟩
  let named := if route?.isSome && !Route.accepts r.method then
    Route.allow handled.response else handled.response
  let sent := if r.method = "HEAD" then named.withoutBody else named
  ⟨shared sent, handled.asked⟩

/-- Answers requests one after the other. -/
def handleAll (s : Service) (now : Moment) (turn : Nat) : List Request → List Handled
  | [] => []
  | r :: rs =>
    let h := s.handle now turn r
    h :: handleAll s now (if h.asked.isEmpty then turn else turn + 1) rs

end Service
end MarketSearch
