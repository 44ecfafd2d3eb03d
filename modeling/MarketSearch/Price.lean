/-
Prices: decimals that are not negative, in normal form.
-/
import MarketSearch.Json.Decoder
import MarketSearch.Violation

namespace MarketSearch

structure Price where
  amount : Decimal
deriving DecidableEq

namespace Price

def zero : Price := ⟨.zero⟩

/-- A price from a decimal that is not below zero; its scale is forgotten. -/
def ofDecimal (d : Decimal) : Except Violation Price :=
  if d.isNegative then .error (.price d) else .ok ⟨d.normalize⟩

/-- A price from a binary number; one that no decimal can hold counts as minus one. -/
def ofBinary64 (x : Binary64) : Except Violation Price :=
  match Decimal.ofBinary64? x with
  | .some d => ofDecimal d
  | .none => .error (.price .minusOne)

def isZero (p : Price) : Bool := p.amount.isZero

def compare (a b : Price) : Ordering := a.amount.compare b.amount

def text (p : Price) : String := p.amount.text

def json (p : Price) : Json := .float p.amount.toBinary64

/-- Takes the decimal as it is given. -/
def decode : Json.Decoder Price := fun v => (Json.decimal v).map Price.mk

end Price
end MarketSearch
