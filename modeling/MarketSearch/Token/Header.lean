/-
The header of an access token: how it is signed.

Only the algorithm matters; the other fields known by name have to have their
shape, and any further field has to be a string.
-/
import MarketSearch.Json.Decoder

namespace MarketSearch

inductive SigningAlgorithm where
  | hs256 | hs384 | hs512
  | es256 | es384
  | rs256 | rs384 | rs512
  | ps256 | ps384 | ps512
  | edDsa
deriving DecidableEq

namespace SigningAlgorithm

def labelled : List (String × SigningAlgorithm) :=
  [("HS256", .hs256), ("HS384", .hs384), ("HS512", .hs512), ("ES256", .es256), ("ES384", .es384),
   ("RS256", .rs256), ("RS384", .rs384), ("RS512", .rs512), ("PS256", .ps256), ("PS384", .ps384),
   ("PS512", .ps512), ("EdDSA", .edDsa)]

def decode : Json.Decoder SigningAlgorithm := Json.choice labelled

end SigningAlgorithm

namespace TokenHeader

open Json (choice list optional string)

/-! ## Public keys -/

def text : Json.Decoder Unit := fun v => (string v).map fun _ => ()

/-- Any name at all, written in one of the ways to write a name. -/
def anyName : Json.Decoder Unit
  | .str _ | .obj [(_, .null)] | .obj [(_, .obj [])] => .ok ()
  | v => .error (.kind v "a name")

def curve : Json.Decoder Unit := choice (["P-256", "P-384", "P-521", "Ed25519"].map fun n => (n, ()))

/-- The types of public keys, with the parts of each. -/
def keyTypes : List (String × List (String × Json.Decoder Unit)) :=
  [("EC", [("crv", curve), ("x", text), ("y", text)]), ("RSA", [("n", text), ("e", text)]),
   ("oct", [("k", text)]), ("OKP", [("crv", curve), ("x", text)])]

/-- What a public key of any type may say. -/
def commonLayout : Json.Layout Unit :=
  ⟨"CommonParameters",
   field "alg" (optional anyName) (fun u _ => u) ::
    ["key_ops", "x5c"].map (fun n => field n (optional (list string)) fun u _ => u) ++
    ["use", "kid", "x5u", "x5t", "x5t#S256"].map fun n => field n (optional string) fun u _ => u⟩

/-- Whether fields have a part, and have it once. -/
def hasPart (fields : List (String × Json)) (part : String × Json.Decoder Unit) : Bool :=
  match fields.filter (·.1 == part.1) with
  | [f] => (part.2 f.2).isOk
  | _ => false

/-- A public key: an object with a type and the parts of that type. -/
def webKey : Json.Decoder Unit
  | .obj fields => do
    commonLayout.decodeOnce () (.obj fields)
    if keyTypes.any fun (type, parts) => (("kty", choice [(type, ())]) :: parts).all (hasPart fields) then
      .ok ()
    else .error (.kind (.obj fields) "a key")
  | v => .error (.kind v "struct Jwk")

/-! ## Headers -/

def textFields : List String :=
  ["typ", "cty", "jku", "kid", "x5u", "x5t", "x5t#S256", "url", "nonce", "enc", "zip"]

def layout : Json.Layout (Option SigningAlgorithm) :=
  ⟨"Header",
   field "alg" SigningAlgorithm.decode (fun _ a => .some a) ::
    field "jwk" (optional webKey) (fun a _ => a) ::
    field "crit" (optional (list string)) (fun a _ => a) ::
    field "x5c" (optional (list string)) (fun a _ => a) ::
    textFields.map fun n => field n (optional string) fun a _ => a⟩

/-- Whether every field without a meaning of its own is a string. -/
def othersAreStrings (fields : List (String × Json)) : Bool :=
  fields.all fun f => (layout.find? f.1).isSome || (string f.2).isOk

/-- The algorithm that a header names. -/
def algorithm? (v : Json) : Option SigningAlgorithm :=
  match v with
  | .obj fields =>
    if othersAreStrings fields then (layout.decodeOnce .none v).toOption.join else .none
  | _ => .none

end TokenHeader
end MarketSearch
