/-
Asking a server for data on behalf of a source.

Whatever goes wrong is a fault of that source: an answer that does not come in
time is a timeout, anything else makes the source unavailable.  A status other
than success decides by itself; the text of its body is only shown.
-/
import MarketSearch.Batch
import MarketSearch.Http.Exchange

namespace MarketSearch

/-- The source that faults are attributed to, and the milliseconds an answer may take. -/
structure Caller where
  source : Source
  timeout : Nat

namespace Caller

/-- The name that requests bear. -/
def userAgent : String := "product-composite/0.1.0"

/-- The kinds of content that requests ask for. -/
def accept : String := "*/*"

/-- The first line of a request for an address. -/
def requestLine (url : Url) : String := "GET " ++ String.ofList url.target ++ " HTTP/1.1"

/-! ## Faults -/

/-- An address where something was attempted, as messages show it. -/
def forUrl (url : Url) : String := " for url (" ++ url.text ++ ")"

def unavailable (c : Caller) (message : String) : SourceFault := .unavailable c.source message

def late (c : Caller) : SourceFault := .timeout c.source (.some c.timeout)

def sendFault (url : Url) : String := "error sending request" ++ forUrl url

/-- The fault of an answer that is no success. -/
def statusFault (c : Caller) (a : ServerAnswer) : SourceFault :=
  let s := Status.text a.status
  if a.status = 408 ∨ a.status = 504 then .timeout c.source .none
  else if a.status = 429 then c.unavailable "Rate limit exceeded"
  else if a.status = 401 ∨ a.status = 403 then c.unavailable ("Access denied (" ++ s ++ ")")
  else if Status.isServerError a.status then
    c.unavailable ("Server error (" ++ s ++ "): " ++ a.text)
  else c.unavailable ("HTTP error (" ++ s ++ "): " ++ a.text)

/-! ## Answers -/

variable {α : Type}

/-- What an answer of success says. -/
def content (c : Caller) (url : Url) (decode : Bytes → Option α) (a : ServerAnswer) :
    Except SourceFault α :=
  if a.stalls then .error c.late
  else
    match a.content?.bind decode with
    | .some x => .ok x
    | .none =>
      .error (c.unavailable ("Failed to parse response: error decoding response body" ++ forUrl url))

def outcome (c : Caller) (url : Url) (decode : Bytes → Option α) :
    Exchange → Except SourceFault α
  | .refused => .error (c.unavailable ("Connection failed: " ++ sendFault url))
  | .closed => .error (c.unavailable ("HTTP request failed: " ++ sendFault url))
  | .silent => .error c.late
  | .answered a =>
    if Status.isSuccess a.status then c.content url decode a else .error (c.statusFault a)

/-- The milliseconds that pass before the outcome is known. -/
def delay (c : Caller) : Exchange → Nat
  | .silent => c.timeout
  | .answered a => if a.stalls then c.timeout else 0
  | _ => 0

/-- Asks for an address with named texts, where `send` carries requests out; what is no address is
not asked for. -/
def getVia {m : Type → Type} [Monad m] (c : Caller) (send : Url → m Exchange) (url? : Option Url)
    (decode : Bytes → Option α) : m (Reply α) :=
  match url? with
  | .some url => do
    let exchange ← send url
    return ⟨c.delay exchange, c.outcome url decode exchange⟩
  | .none => return ⟨0, .error (c.unavailable "HTTP request failed: builder error")⟩

/-- As `getVia`, where every address leads to what the network says. -/
def get (c : Caller) (network : Network) (url? : Option Url) (decode : Bytes → Option α) :
    Reply α :=
  Id.run (c.getVia (fun url => pure (network url)) url? decode)

end Caller
end MarketSearch
