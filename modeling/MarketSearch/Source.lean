/-
The marketplaces that are searched, in their canonical order.
-/
import MarketSearch.Json.Decoder
import MarketSearch.Text.Case

namespace MarketSearch

/-- A name that stands for none of the values of an enumeration. -/
structure UnknownName where
  enumeration : String
  text : String
deriving DecidableEq

def UnknownName.message (u : UnknownName) : String :=
  "invalid " ++ u.enumeration ++ " value: '" ++ u.text ++ "'"

inductive Source where
  | tiki
  | shopee
  | lazada
deriving DecidableEq, Repr

namespace Source

def all : List Source := [.tiki, .shopee, .lazada]

/-- The place in the canonical order. -/
def rank : Source → Nat
  | .tiki => 0
  | .shopee => 1
  | .lazada => 2

theorem rank_inj {a b : Source} (h : a.rank = b.rank) : a = b := by
  cases a <;> cases b <;> simp [rank] at h ⊢

theorem mem_all (s : Source) : s ∈ all := by cases s <;> simp [all]

/-- The name in settings. -/
def key : Source → String
  | .tiki => "tiki"
  | .shopee => "shopee"
  | .lazada => "lazada"

/-- The name in data and messages. -/
def label : Source → String
  | .tiki => "TIKI"
  | .shopee => "SHOPEE"
  | .lazada => "LAZADA"

def labelled : List (String × Source) := all.map fun s => (s.label, s)

def compare (a b : Source) : Ordering := Ord.compare a.rank b.rank

def json (s : Source) : Json := .str s.label

def decode : Json.Decoder Source := Json.choice labelled

/-- Reads a label in any letter case. -/
def ofText? (s : String) : Except UnknownName Source :=
  match labelled.lookup (Text.toUpper s) with
  | .some source => .ok source
  | .none => .error ⟨"Source", s⟩

end Source
end MarketSearch
