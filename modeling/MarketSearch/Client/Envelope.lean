/-
The envelopes in which marketplaces send their records.

An envelope that is missing or null inside holds no records, and what it has
besides them is not looked at.  The records are taken as they are, each by
itself whatever it is; Shopee wraps each of them once more, and one that is not
wrapped is null.
-/
import MarketSearch.Json.Decoder
import MarketSearch.Json.Outline
import MarketSearch.Source

namespace MarketSearch
namespace Envelope

open Json (optional list)

/-- Any value, with its objects in order. -/
def record : Json.Decoder Json := fun v => .ok v.canonical

/-- The items of an envelope, where there may be none. -/
abbrev Items := Option (List Json)

def tiki : Json.Layout Items :=
  ⟨"TikiSearchResponse", [trailingField "data" (optional (list record)) fun _ vs => vs]⟩

def shopee : Json.Layout Items :=
  ⟨"ShopeeSearchResponse", [field "items" (optional (list record)) fun _ vs => vs]⟩

def lazadaMods : Json.Layout Items :=
  ⟨"LazadaMods", [field "listItems" (optional (list record)) fun _ vs => vs]⟩

def lazada : Json.Layout Items :=
  ⟨"LazadaCatalogResponse",
   [field "mods" (optional (lazadaMods.decodeOnce .none)) fun _ mods => mods.join]⟩

def layout : Source → Json.Layout Items
  | .tiki => tiki
  | .shopee => shopee
  | .lazada => lazada

/-- What is looked at of the envelope of a source. -/
def view : Source → Json.View
  | .tiki => .record [("data", .whole)]
  | .shopee => .record [("items", .whole)]
  | .lazada => .record [("mods", .record [("listItems", .whole)])]

/-- The record in an item. -/
def unwrap : Source → Json → Json
  | .shopee, item => (item.get? "item_basic").getD .null
  | _, item => item

/-- The records in the envelope of a source. -/
def records? (s : Source) (v : Json) : Option (List Json) :=
  ((layout s).decodeOnce .none v).toOption.map fun items => (items.getD []).map (unwrap s)

def decode (s : Source) (bs : Bytes) : Option (List Json) := ((view s).ofBytes? bs).bind (records? s)

/-- The records of a list without an envelope. -/
def decodeBare (bs : Bytes) : Option (List Json) :=
  (Json.ofBytes? bs).bind fun v => (list record v).toOption

end Envelope
end MarketSearch
