/-
Addresses that a client asks: where the server is, a path, and perhaps a query
and a fragment.

What may not stand in a part as it is becomes percent-encoded there, and an
escape that is there already stays.  Steps to the same or the next higher place
are taken while an address is read.  Named texts are added at the end of the
query, in the form of `Form`, whatever the address had before.
-/
import MarketSearch.Form
import MarketSearch.Numeral

namespace MarketSearch

/-- Who is asked: a scheme, a host, and a port where it is not the one of the scheme. -/
structure Url.Origin where
  scheme : String
  host : List Char
  port : Option Nat
deriving DecidableEq

/-- The path begins with a slash. -/
structure Url where
  origin : Url.Origin
  path : List Char
  query : Option (List Char)
  fragment : Option (List Char)
deriving DecidableEq

namespace Url

/-! ## Writing -/

def Origin.chars (o : Origin) : List Char :=
  o.scheme.toList ++ "://".toList ++ o.host ++
    (match o.port with
      | .some n => ':' :: Numeral.digits n
      | .none => [])

/-- A part after its mark. -/
def marked (mark : Char) : Option (List Char) → List Char
  | .some cs => mark :: cs
  | .none => []

/-- What the server is sent of the address. -/
def target (u : Url) : List Char := u.path ++ marked '?' u.query

def chars (u : Url) : List Char := u.origin.chars ++ u.target ++ marked '#' u.fragment

def text (u : Url) : String := String.ofList u.chars

/-! ## Escapes -/

/-- Whether a byte is visible and none of the marks given. -/
def isPlain (marks : List Char) (b : UInt8) : Bool :=
  0x20 < b.toNat && b.toNat < 0x7F && !marks.contains (Char.ofNat b.toNat)

def escape (marks cs : List Char) : List Char := Percent.encode (isPlain marks) (Utf8.encode cs)

/-- The marks that are escaped in a segment of a path. -/
def pathMarks : List Char := ['"', '#', '<', '>', '?', '\x60', '\x7b', '\x7d']

def queryMarks : List Char := ['"', '#', '<', '>', '\'']

def fragmentMarks : List Char := ['"', '<', '>', '\x60']

/-! ## Paths -/

/-- A point as itself or escaped. -/
def isDot (cs : List Char) : Bool := [".", "%2e", "%2E"].any (·.toList == cs)

/-- A step to the same place. -/
def isHere (segment : List Char) : Bool := isDot segment

/-- A step to the next higher place: two points. -/
def isUp (segment : List Char) : Bool :=
  (List.range segment.length).any fun n => isDot (segment.take n) && isDot (segment.drop n)

/-- The segments of a path after one more, the nearest one first. -/
def descend (above : List (List Char)) (segment : List Char) : List (List Char) :=
  if isUp segment then above.drop 1
  else if isHere segment then above
  else escape pathMarks segment :: above

/-- The segments of a path; a step at its end leads to a place with no name. -/
def resolve (segments : List (List Char)) : List (List Char) :=
  let places := (segments.foldl descend []).reverse
  match segments.getLast? with
  | .some s => if isUp s || isHere s then places ++ [[]] else places
  | .none => [[]]

/-- The path of what stands between the host and the query. -/
def pathOf (cs : List Char) : List Char :=
  let slashed := cs.map fun c => if c = '\\' then '/' else c
  let segments := match slashed with
    | '/' :: rest => Text.splitAll '/' rest
    | rest => Text.splitAll '/' rest
  (resolve segments).flatMap ('/' :: ·)

/-! ## Hosts -/

def schemePorts : List (String × Nat) := [("http", 80), ("https", 443)]

/-- Whether a character may stand in the name of a host. -/
def isNameChar (c : Char) : Bool :=
  0x20 < c.toNat && c.toNat < 0x7F && !"#%/:<>?@[\\]^|".toList.contains c

/-- A name, or an address of groups between brackets. -/
def isHost (cs : List Char) : Bool :=
  match cs with
  | '[' :: rest =>
    rest.getLast? == .some ']' &&
      rest.dropLast.all fun c => c == ':' || c == '.' || (Numeral.digitValue? 16 c).isSome
  | cs => !cs.isEmpty && cs.all isNameChar

/-- A port as written; an empty one and the scheme's own are left out. -/
def port? (scheme : String) (cs : List Char) : Option (Option Nat) :=
  if cs.isEmpty then .some .none
  else if cs.all Char.isDigit then
    ((Numeral.value? 10 cs).filter (· < 65536)).map fun n =>
      if schemePorts.contains (scheme, n) then .none else .some n
  else .none

/-- The host, and the port after the colon that follows it. -/
def splitPort (cs : List Char) : List Char × List Char :=
  if cs.getLast? = .some ']' then (cs, []) else (Text.splitLast? ':' cs).getD (cs, [])

/-- The host and the port in the part between the scheme and the path. -/
def origin? (scheme : String) (cs : List Char) : Option Origin :=
  let (host, port) := splitPort cs
  if isHost host then (port? scheme port).map fun n => ⟨scheme, host.map Char.toLower, n⟩
  else .none

/-! ## Reading -/

/-- Cuts off what follows a mark. -/
def cutAt (mark : Char) (cs : List Char) : List Char × Option (List Char) :=
  match Text.splitFirst? mark cs with
  | .some (a, b) => (a, .some b)
  | .none => (cs, .none)

def isSlash (c : Char) : Bool := c == '/' || c == '\\'

/-- Nothing in an address depends on line breaks and tabs, or on blanks and control characters
around it. -/
def clean (cs : List Char) : List Char :=
  let isOuter := fun (c : Char) => c.toNat ≤ 0x20
  let inner := ((cs.dropWhile isOuter).reverse.dropWhile isOuter).reverse
  inner.filter fun c => !(c == '\t' || c == '\n' || c == '\r')

/-- Reads an address with its scheme. -/
def ofChars? (cs : List Char) : Option Url :=
  (Text.splitFirst? ':' (clean cs)).bind fun (scheme, rest) =>
    let scheme := String.ofList (scheme.map Char.toLower)
    if (schemePorts.lookup scheme).isNone then .none
    else
      let body := rest.dropWhile isSlash
      let (body, fragment) := cutAt '#' body
      let (body, query) := cutAt '?' body
      (origin? scheme (body.takeWhile (!isSlash ·))).map fun origin =>
        { origin := origin
          path := pathOf (body.dropWhile (!isSlash ·))
          query := query.map (escape queryMarks)
          fragment := fragment.map (escape fragmentMarks) }

def ofText? (s : String) : Option Url := ofChars? s.toList

/-! ## Parameters -/

/-- Adds named texts to a query. -/
def extend (query : Option (List Char)) (pairs : List (String × String)) : List Char :=
  match query with
  | .some (c :: cs) => c :: cs ++ '&' :: Form.encode pairs
  | _ => Form.encode pairs

def withParams (u : Url) (pairs : List (String × String)) : Url :=
  { u with query := .some (extend u.query pairs) }

end Url
end MarketSearch
