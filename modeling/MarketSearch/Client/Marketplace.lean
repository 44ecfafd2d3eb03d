/-
The clients of the marketplaces: how each is asked for the products that match
a filter.
-/
import MarketSearch.Client.Caller
import MarketSearch.Client.Envelope
import MarketSearch.Text.Slashes

namespace MarketSearch

/-- A marketplace, the address of its service, and the milliseconds an answer may take. -/
structure MarketClient where
  source : Source
  base : String
  timeout : Nat

namespace MarketClient

/-- Where the search is, below the address of the service. -/
def searchPath : Source → String
  | .tiki => "/api/v2/products"
  | .shopee => "/api/v4/search/search_items"
  | .lazada => "/catalog/"

/-- The parameters of a search, in the order they are sent. -/
def params (s : Source) (f : Filter) : List (String × String) :=
  match s with
  | .tiki => [("q", f.words), ("sort", "price," ++ f.direction.lowerLabel)]
  | .shopee => [("keyword", f.words), ("by", "price"), ("order", f.direction.lowerLabel)]
  | .lazada => [("q", f.words), ("ajax", "true"), ("sort", "price" ++ f.direction.lowerLabel)]

/-- The address of the search, without parameters. -/
def address (c : MarketClient) : List Char :=
  Text.trimSlashes c.base.toList ++ (searchPath c.source).toList

/-- What is asked for. -/
def url? (c : MarketClient) (f : Filter) : Option Url :=
  (Url.ofChars? c.address).map (·.withParams (params c.source f))

def caller (c : MarketClient) : Caller := ⟨c.source, c.timeout⟩

/-- Asks for the records that match a filter, where `send` carries requests out. -/
def fetchVia {m : Type → Type} [Monad m] (c : MarketClient) (send : Url → m Exchange) (f : Filter) :
    m (Reply (List Json)) :=
  c.caller.getVia send (c.url? f) (Envelope.decode c.source)

/-- The records that match a filter. -/
def fetch (c : MarketClient) (network : Network) (f : Filter) : Reply (List Json) :=
  Id.run (c.fetchVia (fun url => pure (network url)) f)

end MarketClient
end MarketSearch
