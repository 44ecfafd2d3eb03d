/-
Verification of access tokens.

A token is three parts between points: header, payload and signature, each in
base64.  It is accepted when the signature is the keyed digest of the first
two under the secret, it has not expired, it is not meant for somebody else in
particular, and its claims grant the scope required.
-/
import MarketSearch.Digest.Hmac
import MarketSearch.Json.Writer
import MarketSearch.Text.Base64
import MarketSearch.Text.Split
import MarketSearch.Token.Claims
import MarketSearch.Token.Header

namespace MarketSearch

/-! ## Faults -/

inductive TokenFault where
  | malformed
  | base64 (fault : Base64.Fault)
  | data
  | algorithm
  | signature
  | expired
  | audience
deriving DecidableEq

def TokenFault.message : TokenFault → String
  | .malformed => "InvalidToken"
  | .base64 f => "Base64 error: " ++ f.message
  | .data => "JSON error"
  | .algorithm => "InvalidAlgorithm"
  | .signature => "InvalidSignature"
  | .expired => "ExpiredSignature"
  | .audience => "InvalidAudience"

inductive AuthFault where
  | missingToken
  | invalidToken (reason : String)
  | missingScope (scope : String)
deriving DecidableEq

def AuthFault.ofToken (f : TokenFault) : AuthFault := .invalidToken f.message

def AuthFault.message : AuthFault → String
  | .missingToken => "Full authentication is required to access this resource"
  | .invalidToken reason => "Invalid access token: " ++ reason
  | .missingScope s => "Access denied: scope '" ++ s ++ "' is required"

/-! ## Parts of a token -/

structure Token where
  header : List Char
  payload : List Char
  signature : List Char

namespace Token

/-- The part that is signed. -/
def signed (t : Token) : List Char := t.header ++ '.' :: t.payload

def text (t : Token) : String := String.ofList (t.signed ++ '.' :: t.signature)

/-- The parts between the last two points. -/
def ofChars? (cs : List Char) : Option Token :=
  (Text.splitLast? '.' cs).bind fun (signed, signature) =>
    (Text.splitLast? '.' signed).map fun (header, payload) => ⟨header, payload, signature⟩

def part (cs : List Char) : Except TokenFault Bytes :=
  match Base64.decode (Utf8.encode cs) with
  | .ok bs => .ok bs
  | .error f => .error (.base64 f)

/-- The value that a part holds, as it is read from bytes. -/
def partValue (read? : Bytes → Option Json) (cs : List Char) : Except TokenFault Json := do
  match read? (← part cs) with
  | .some v => .ok v
  | .none => .error .data

def orData {α : Type} : Option α → Except TokenFault α
  | .some a => .ok a
  | .none => .error .data

end Token

/-! ## The verifier -/

structure Verifier where
  secret : String
  requiredScope : String

namespace Verifier

/-- The seconds that a token is accepted beyond its time. -/
def leeway : Nat := 60

def signature (v : Verifier) (signed : List Char) : Bytes :=
  Hmac.sha256 (Utf8.ofText v.secret) (Utf8.encode signed)

/-- Checks header and signature. -/
def checkSignature (v : Verifier) (t : Token) : Except TokenFault Unit := do
  let algorithm ← Token.orData (TokenHeader.algorithm? (← Token.partValue Json.ofBytes? t.header))
  if algorithm ≠ .hs256 then .error .algorithm
  else if (← Token.part t.signature) ≠ v.signature t.signed then .error .signature
  else .ok ()

/-- The claims of a payload that is still valid at `now`. -/
def checkClaims (now : Nat) (t : Token) : Except TokenFault Claims := do
  let payload ← Token.orData (Claims.payload? (← Token.partValue Claims.view.ofBytes? t.payload))
  let claims ← Token.orData (Claims.ofPayload? payload)
  if claims.exp + leeway < now then .error .expired
  else if payload.hasAudience then .error .audience
  else .ok claims

/-- The claims of a token with a valid signature, `now` being the seconds of the clock. -/
def verify (v : Verifier) (now : Nat) (token : String) : Except TokenFault Claims := do
  match Token.ofChars? token.toList with
  | .some t =>
    v.checkSignature t
    checkClaims now t
  | .none => .error .malformed

/-- The claims of a valid token that grants the scope required. -/
def authorize (v : Verifier) (now : Nat) (token : String) : Except AuthFault Claims :=
  match v.verify now token with
  | .ok claims =>
    if claims.hasScope v.requiredScope then .ok claims else .error (.missingScope v.requiredScope)
  | .error f => .error (.ofToken f)

/-- The verifier as a message shows it: without the secret. -/
def text (v : Verifier) : String :=
  "JwtVerifier \x7b required_scope: " ++ Text.quoted v.requiredScope ++ ", .. \x7d"

/-! ## Issuing -/

/-- Bytes as a part of a token. -/
def partOf (bs : Bytes) : List Char := (Base64.encode bs).map fun b => Char.ofNat b.toNat

def standardHeader : Json := .obj [("typ", .str "JWT"), ("alg", .str "HS256")]

/-- The token that carries the claims. -/
def issue (v : Verifier) (c : Claims) : Token :=
  let header := partOf (Utf8.encode standardHeader.chars)
  let payload := partOf (Utf8.encode c.json.chars)
  ⟨header, payload, partOf (v.signature (header ++ '.' :: payload))⟩

end Verifier
end MarketSearch
