/-
Reading decimals.

A plain decimal has an optional sign, digits with at most one point among
them, and underscores anywhere after the first digit.  Digits after the point
that do not fit, by scale or by size, are cut, the last one kept being rounded
half up by the first one cut; digits before the point that do not fit make the
text unreadable.  Where a text is no plain decimal, an exponent is tried.
-/
import MarketSearch.Decimal.Basic

namespace MarketSearch
namespace Decimal

/-! ## Plain decimals -/

/-- What has been read of the digits: their value, how many lie after the point, whether the
point has passed, and whether there was any digit. -/
structure Reading where
  mantissa : Nat
  scale : Nat
  pointed : Bool
  started : Bool

/-- The unsigned result of a reading that is cut before the digit `next`. -/
def Reading.roundBy (r : Reading) (next : Nat) : Option (Nat × Nat) :=
  let m := if 5 ≤ next then r.mantissa + 1 else r.mantissa
  if m < mantissaLimit then .some (m, r.scale)
  else if r.scale = 0 then .none
  else .some ((m + 4) / 10, r.scale - 1)

/-- Only digits and underscores, as they may follow the digit that decides a rounding. -/
def isDigitTail (cs : List Char) : Bool := cs.all fun c => c.isDigit || c == '_'

/-- Reads the rest of an unsigned plain decimal into a mantissa and a scale. -/
def readPlain (r : Reading) : List Char → Option (Nat × Nat)
  | [] => if r.started then .some (r.mantissa, r.scale) else .none
  | c :: cs =>
    if c = '.' then
      if r.pointed then .none else readPlain { r with pointed := true } cs
    else if c = '_' ∧ r.started ∧ ¬(r.pointed ∧ r.scale = maxScale) then readPlain r cs
    else
      let digit? := if c = '_' ∧ r.started then .some 0 else Numeral.digitValue? 10 c
      digit?.bind fun d =>
        let m := r.mantissa * 10 + d
        if r.pointed then
          if r.scale = maxScale ∨ mantissaLimit ≤ m then
            if isDigitTail cs then r.roundBy d else .none
          else readPlain { r with mantissa := m, scale := r.scale + 1, started := true } cs
        else if mantissaLimit ≤ m then .none
        else readPlain { r with mantissa := m, started := true } cs

/-- Takes an optional sign off the front. -/
def takeSign : List Char → Bool × List Char
  | '-' :: cs => (true, cs)
  | '+' :: cs => (false, cs)
  | cs => (false, cs)

def plain? (cs : List Char) : Option Decimal :=
  let (negative, body) := takeSign cs
  (readPlain ⟨0, 0, false, false⟩ body).bind fun (m, s) => ofParts? negative m s

/-! ## Exponents -/

/-- The mantissa with `drop` of its digits rounded away, a half away from zero. -/
def roundAway (mantissa drop : Nat) : Nat :=
  let p := Nat.pow 10 drop
  if p ≤ 2 * (mantissa % p) then mantissa / p + 1 else mantissa / p

/-- `d` times ten to the minus `e`: the scale grows, and digits past the last place are rounded
off first. -/
def shiftDown? (d : Decimal) (e : Nat) : Option Decimal :=
  if maxScale < e then .none
  else if maxScale < d.scale + e then
    let kept := maxScale - e
    ofParts? d.negative (roundAway d.mantissa (d.scale - kept)) maxScale
  else ofParts? d.negative d.mantissa (d.scale + e)

/-- `d` times ten to the `e`: the scale shrinks while there is any, and past that the mantissa
grows. -/
def shiftUp? (d : Decimal) (e : Nat) : Option Decimal :=
  if e ≤ d.scale then ofParts? d.negative d.mantissa (d.scale - e)
  else if maxScale < e then .none
  else (ofParts? d.negative (d.mantissa * Nat.pow 10 (e - d.scale)) 0)

def maxExponent : Nat := Nat.pow 2 32 - 1

def withExponent? (d : Decimal) : List Char → Option Decimal
  | '-' :: cs => (Numeral.natUpTo? maxExponent cs).bind (shiftDown? d)
  | '+' :: cs => (Numeral.natUpTo? maxExponent cs).bind (shiftUp? d)
  | cs => (Numeral.natUpTo? maxExponent cs).bind (shiftUp? d)

def scientific? (cs : List Char) : Option Decimal :=
  let isMark := fun c => c == 'e' || c == 'E'
  match cs.dropWhile (!isMark ·) with
  | [] => .none
  | _ :: e => (plain? (cs.takeWhile (!isMark ·))).bind (withExponent? · e)

/-- Reads a decimal, plain or with an exponent. -/
def ofChars? (cs : List Char) : Option Decimal := (plain? cs).orElse fun _ => scientific? cs

def ofText? (s : String) : Option Decimal := ofChars? s.toList

end Decimal
end MarketSearch
