/-
A search over every registered source.

All sources are asked and all are waited for, each up to its own limit.  What
they contribute is gathered in canonical order and sorted; a source that fails
or is late contributes nothing and is reported.  A filter that breaks the
rules is refused before any source is asked, and a search without a single
product is an error.
-/
import MarketSearch.Product.Order
import MarketSearch.Registry

namespace MarketSearch

/-! ## Errors -/

inductive SearchError where
  | invalidInput (message : String)
  | notFound (message : String)
deriving DecidableEq

namespace SearchError

def message : SearchError → String
  | .invalidInput m => m
  | .notFound m => m

def isInvalidInput : SearchError → Bool
  | .invalidInput _ => true
  | _ => false

def isNotFound : SearchError → Bool
  | .notFound _ => true
  | _ => false

/-- Input that is refused for a reason. -/
def invalid (reason : String) : SearchError := .invalidInput ("INVALID: " ++ reason)

def invalidFilter (f : Filter) : SearchError := invalid f.text

def noProduct (query : String) : SearchError := .notFound ("No product found for query: " ++ query)

end SearchError

/-! ## Results -/

structure SearchReport where
  products : List Product
  queried : Nat
  failures : List SourceFault
  dropped : Nat

namespace SearchReport

/-- How many of the sources asked have answered. -/
def responded (r : SearchReport) : Nat := r.queried - r.failures.length

def failedSources (r : SearchReport) : List Source := r.failures.map SourceFault.origin

def isComplete (r : SearchReport) : Bool := r.failures.isEmpty

end SearchReport

/-- The outcome of a search, and the sources that were asked for it. -/
structure Searched where
  result : Except SearchError SearchReport
  asked : List Source

/-! ## The engine -/

/-- The sources, what results are sorted by, the milliseconds each source is given, and the most
products in a result. -/
structure SearchEngine where
  registry : Registry
  key : SortKey
  timeout : Nat
  maxProducts : Option Nat

namespace SearchEngine

def defaultTimeout : Nat := 5000

/-- Results by price, as many as there are. -/
def ofRegistry (r : Registry) : SearchEngine := ⟨r, .price, defaultTimeout, .none⟩

/-- One source asked: which one, and its reply. -/
structure Call where
  source : Source
  reply : Reply Batch

def Call.outcome (timeout : Nat) (c : Call) : Except SourceFault Batch :=
  c.reply.within c.source timeout

/-- Every registered source asked once. -/
def calls (e : SearchEngine) (turn : Nat) (f : Filter) : List Call :=
  e.registry.adapters.map fun a => ⟨a.source, a.fetch turn f⟩

/-- Whether some source keeps the search waiting longer than the limit. -/
def outlasts (e : SearchEngine) (limit turn : Nat) (f : Filter) : Bool :=
  (e.calls turn f).any fun c => limit < min c.reply.delay e.timeout

def truncate (e : SearchEngine) (ps : List Product) : List Product :=
  match e.maxProducts with
  | .some n => ps.take n
  | .none => ps

/-- The batches that came in time, in the order of the calls. -/
def batches (outcomes : List (Except SourceFault Batch)) : List Batch :=
  outcomes.filterMap fun
    | .ok b => .some b
    | .error _ => .none

def failures (outcomes : List (Except SourceFault Batch)) : List SourceFault :=
  outcomes.filterMap fun
    | .ok _ => .none
    | .error x => .some x

/-- The result of the outcomes of all sources. -/
def report (e : SearchEngine) (f : Filter) (outcomes : List (Except SourceFault Batch)) :
    Except SearchError SearchReport :=
  let products := (batches outcomes).flatMap (·.products)
  if products.isEmpty then .error (.noProduct f.query)
  else
    .ok
      { products := e.truncate (Product.sort e.key f.direction products)
        queried := outcomes.length
        failures := failures outcomes
        dropped := (batches outcomes).foldl (fun n b => n + b.dropped) 0 }

/-- Searches after `turn` searches that asked the sources. -/
def search (e : SearchEngine) (turn : Nat) (f : Filter) : Searched :=
  match f.validate with
  | .error _ => ⟨.error (.invalidFilter f), []⟩
  | .ok _ =>
    let calls := e.calls turn f
    ⟨e.report f (calls.map (Call.outcome e.timeout)), calls.map (·.source)⟩

/-- How many searches have asked the sources once this filter is answered. -/
def turnAfter (turn : Nat) (f : Filter) : Nat :=
  match f.validate with
  | .error _ => turn
  | .ok _ => turn + 1

/-- Answers filters one after the other. -/
def searchAll (e : SearchEngine) (turn : Nat) : List Filter → List Searched
  | [] => []
  | f :: fs => e.search turn f :: searchAll e (turnAfter turn f) fs

end SearchEngine
end MarketSearch
