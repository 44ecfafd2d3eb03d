/-
The claims of an access token: who it is for, what it grants, and until when.
-/
import MarketSearch.Json.Decoder
import MarketSearch.Json.Outline
import MarketSearch.Text.Blank

namespace MarketSearch

structure Claims where
  sub : String
  scope : String
  exp : Nat
deriving DecidableEq

namespace Claims

/-- Whether the scope is one of the words granted. -/
def hasScope (c : Claims) (scope : String) : Bool := (Text.words c.scope).contains scope

def json (c : Claims) : Json := .obj [("sub", .str c.sub), ("scope", .str c.scope), ("exp", .int c.exp)]

/-! ## Reading -/

/-- What a payload says, as far as it matters. -/
structure Payload where
  sub : Option String
  scope : String
  exp : Option Nat
  audience : Json

def Payload.blank : Payload := ⟨.none, "", .none, .null⟩

/-- The fields of a payload that are looked at. The last three may have any shape. -/
def view : Json.View :=
  .record
    [("sub", .whole), ("scope", .whole), ("exp", .whole), ("aud", .tried), ("nbf", .glanced), ("iss", .tried)]

open Json (string unsigned64) in
def layout : Json.Layout Payload :=
  ⟨"Claims",
   [field "sub" string fun p s => { p with sub := .some s },
    field "scope" string fun p s => { p with scope := s },
    field "exp" unsigned64 fun p n => { p with exp := .some n },
    field "aud" (fun v => .ok v) fun p v => { p with audience := v },
    field "nbf" (fun _ => .ok ()) fun p _ => p,
    field "iss" (fun _ => .ok ()) fun p _ => p]⟩

/-- Whether the token names those it is meant for. -/
def Payload.hasAudience (p : Payload) : Bool :=
  match p.audience with
  | .str _ => true
  | .arr vs => vs.all fun
    | .str _ => true
    | _ => false
  | _ => false

/-- The payload in a value, which has to be an object. -/
def payload? (v : Json) : Option Payload :=
  match v with
  | .obj _ => (layout.decodeOnce .blank v).toOption
  | _ => .none

def ofPayload? (p : Payload) : Option Claims :=
  match p.sub, p.exp with
  | .some sub, .some exp => .some ⟨sub, p.scope, exp⟩
  | _, _ => .none

end Claims
end MarketSearch
