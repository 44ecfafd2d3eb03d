/-
Discount rates: percentages from 0 to 100, in normal form.
-/
import MarketSearch.Json.Decoder
import MarketSearch.Violation

namespace MarketSearch

structure DiscountRate where
  percent : Decimal
deriving DecidableEq

namespace DiscountRate

def zero : DiscountRate := ⟨.zero⟩

/-- A rate from a decimal between 0 and 100; its scale is forgotten. -/
def ofDecimal (d : Decimal) : Except Violation DiscountRate :=
  if d.isNegative || d.compare .hundred == .gt then .error (.discountRate d)
  else .ok ⟨d.normalize⟩

/-- A rate from a binary number; one that no decimal can hold counts as minus one. -/
def ofBinary64 (x : Binary64) : Except Violation DiscountRate :=
  match Decimal.ofBinary64? x with
  | .some d => ofDecimal d
  | .none => .error (.discountRate .minusOne)

def isDiscounted (r : DiscountRate) : Bool := !r.percent.isZero

def compare (a b : DiscountRate) : Ordering := a.percent.compare b.percent

def text (r : DiscountRate) : String := r.percent.text ++ "%"

def json (r : DiscountRate) : Json := .float r.percent.toBinary64

/-- Takes the decimal as it is given. -/
def decode : Json.Decoder DiscountRate := fun v => (Json.decimal v).map DiscountRate.mk

end DiscountRate
end MarketSearch
