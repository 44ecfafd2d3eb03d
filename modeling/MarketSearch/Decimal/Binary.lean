/-
Decimals and binary numbers.

A binary number becomes a decimal by trading its factors of two for factors of
five and ten, the mantissa kept below `2^96`, and is then cut to the fifteen
or sixteen digits that such a number has.  A decimal becomes a binary number
from its whole part and its fraction, rounded to as many places as it has.
-/
import MarketSearch.Binary64.Text
import MarketSearch.Decimal.Reader

namespace MarketSearch
namespace Decimal

/-! ## From a binary number -/

/-- Multiplies by `2^-k`, as `5^k` and tens: `(m, e)` stands for `m * 10^e`. -/
def tradeHalves (m : Nat) (e : Int) : Nat → Nat × Int
  | 0 => (m, e)
  | k + 1 =>
    if m % 2 = 0 then tradeHalves (m / 2) (e + 1) k
    else if m * 5 < mantissaLimit then tradeHalves (m * 5) e k
    else tradeHalves (m / 2) (e + 1) k

/-- Multiplies by `2^k`, as tens and doublings or fifths; none when the tens left could not be
taken up any more. -/
def tradeDoubles (m : Nat) (e : Int) : Nat → Option (Nat × Int)
  | 0 => .some (m, e)
  | k + 1 =>
    if m < Nat.pow 2 95 then tradeDoubles (m * 2) (e - 1) k
    else if 2 * e > k + 1 then .none
    else tradeDoubles (m / 5) e k

/-- Divides by ten, rounding a half up. -/
def tenth (m : Nat) : Nat := if 5 ≤ m % 10 then m / 10 + 1 else m / 10

/-- Takes `k` tens into the mantissa. -/
def takeTens (m : Nat) : Nat → Option Nat
  | 0 => .some m
  | k + 1 => if m * 10 < mantissaLimit then takeTens (m * 10) k else .none

/-- Cuts the scale down to the largest there is; a mantissa that vanishes on the way is zero. -/
def cutScale (m : Nat) : (scale : Nat) → Nat × Nat
  | 0 => (m, 0)
  | s + 1 =>
    if maxScale < s + 1 then
      if m / 10 = 0 then (0, 0) else cutScale (tenth m) s
    else (m, s + 1)

/-- Cuts digits after the point until the mantissa is below `2^52`. -/
def cutDigits (m : Nat) : (scale : Nat) → Nat × Nat
  | 0 => (m, 0)
  | s + 1 => if Nat.pow 2 52 ≤ m then cutDigits (tenth m) s else (m, s + 1)

/-- Cuts and strips `m * 10^e` to its significant digits. -/
def ofTens? (negative : Bool) (m : Nat) (e : Int) : Option Decimal :=
  let settled? : Option (Nat × Nat) :=
    if 0 ≤ e then (takeTens m e.toNat).map fun m => (m, 0)
    else .some (cutScale m e.natAbs)
  settled?.bind fun (m, s) =>
    let (m, s) := cutDigits m s
    let (m, s) := dropZeros m s
    ofParts? negative m s

/-- The decimal nearest in the digits that a binary number has; none for what is not finite or
too large. -/
def ofBinary64? : Binary64 → Option Decimal
  | .finite negative m p =>
    if m = 0 then .some zero
    else
      let e : Int := (p : Int) - 1074
      if e ≤ 0 then
        let (m, e10) := tradeHalves m e e.natAbs
        ofTens? negative m e10
      else (tradeDoubles m e e.toNat).bind fun (m, e10) => ofTens? negative m e10
  | _ => .none

/-! ## To a binary number -/

/-- `b^n` by repeated squaring, every product rounded, with `r` as the product so far; `fuel`
bounds the number of binary digits of `n`. -/
def powFrom (r b : Binary64) (n : Nat) : (fuel : Nat) → Binary64
  | 0 => r
  | fuel + 1 =>
    let r := if n % 2 = 1 then r.mul b else r
    if n / 2 = 0 then r else powFrom r (b.mul b) (n / 2) fuel

/-- Ten to the `scale`, as rounded products give it. -/
def scalePower (scale : Nat) : Binary64 := powFrom (.ofNat 1) (.ofNat 10) scale 5

/-- The magnitude as a binary number. -/
def magnitude (d : Decimal) : Binary64 :=
  if d.scale = 0 then .ofNat d.mantissa
  else
    let p := Nat.pow 10 d.scale
    let whole := Binary64.ofNat (d.mantissa / p)
    let fraction := (Binary64.ofNat (d.mantissa % p)).div (.ofNat p)
    if fraction.isZero then whole
    else
      let r := scalePower d.scale
      (Binary64.ofNat ((whole.add fraction).mul r).roundToNat).div r

/-- The binary number that data carries for a decimal. -/
def toBinary64 (d : Decimal) : Binary64 :=
  if d.isNegative then d.magnitude.neg else d.magnitude

end Decimal
end MarketSearch
