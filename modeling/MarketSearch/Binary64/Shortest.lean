/-
The shortest decimal that names a binary number.

The reals that round to a number form an interval, its ends included when the
significand is even.  On the grid of decimals with one digit, then two, and so
on, the two neighbours of the number are tried; the first grid with one inside
the interval wins, and of two there the closer.  An exact tie between the two
is settled by the caller.
-/
import MarketSearch.Binary64.Basic
import MarketSearch.Numeral

namespace MarketSearch

/-- `digits * 10^exponent`. -/
structure ScaledDigits where
  digits : Nat
  exponent : Int
deriving DecidableEq, Repr

/-- Which of two equally close decimals is taken. -/
inductive Tie where
  | even
  | up
deriving DecidableEq, Repr

namespace Binary64

/-- `10^t` as a numerator and a denominator. -/
def tenPow (t : Int) : Nat × Nat := (Nat.pow 10 t.toNat, Nat.pow 10 (-t).toNat)

/-- Whether the decimal `c * 10^t` rounds to the number `m * 2^p` least units. -/
def readsBack (m p c : Nat) (t : Int) : Bool :=
  let (up, down) := tenPow t
  let below := if m = Nat.pow 2 52 ∧ 0 < p then Nat.pow 2 p else 2 * Nat.pow 2 p
  let low := (4 * (m * Nat.pow 2 p) - below) * down
  let high := (4 * (m * Nat.pow 2 p) + 2 * Nat.pow 2 p) * down
  let x := 4 * c * up * unit
  if m % 2 = 0 then low ≤ x && x ≤ high else low < x && x < high

/-- The exponent of the leading decimal digit of `a / d`, both positive. -/
def leadExponent (a d : Nat) : Int :=
  let guess : Int := ((a.log2 : Int) - d.log2) * 1233 / 4096
  let atMost (e : Int) : Bool :=
    let (up, down) := tenPow e
    d * up ≤ a * down
  ([guess + 2, guess + 1, guess, guess - 1].find? atMost).getD (guess - 2)

/-- The neighbour of `m * 2^p` on the grid `10^t` that rounds to it, if one does. -/
def onGrid? (tie : Tie) (m p : Nat) (t : Int) : Option ScaledDigits :=
  let (up, down) := tenPow t
  let a := m * Nat.pow 2 p * down
  let d := unit * up
  let c := a / d
  match readsBack m p c t, readsBack m p (c + 1) t with
  | true, true =>
    let r := 2 * (a % d)
    if r < d ∨ (r = d ∧ tie = .even ∧ c % 2 = 0) then .some ⟨c, t⟩ else .some ⟨c + 1, t⟩
  | true, false => .some ⟨c, t⟩
  | false, true => .some ⟨c + 1, t⟩
  | false, false => .none

/-- Moves trailing zeros of the digits into the exponent. -/
def strip (x : ScaledDigits) : ScaledDigits :=
  if h : x.digits ≠ 0 ∧ x.digits % 10 = 0 then strip ⟨x.digits / 10, x.exponent + 1⟩ else x
termination_by x.digits
decreasing_by exact Nat.div_lt_self (by omega) (by decide)

/-- The shortest decimal that reads back to the finite positive number `m * 2^p` least units.
Seventeen digits always suffice; were none found, the exact value stands in. -/
def shortest (tie : Tie) (m p : Nat) : ScaledDigits :=
  let lead := leadExponent (m * Nat.pow 2 p) unit
  let found := (List.range 17).findSome? fun (i : Nat) => onGrid? tie m p (lead - (i : Int))
  strip (found.getD ⟨m * Nat.pow 2 p * Nat.pow 5 1074, -1074⟩)

end Binary64
end MarketSearch
