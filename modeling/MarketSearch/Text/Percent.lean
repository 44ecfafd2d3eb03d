/-
Percent encoding: a byte written as `%` and two hexadecimal digits.

Digits are written in upper case and read in either; a percent sign without
two digits after it stands for itself.
-/
import MarketSearch.Numeral
import MarketSearch.Text.Utf8

namespace MarketSearch
namespace Percent

def upperDigit (d : Nat) : Char := (Numeral.digitChar d).toUpper

def escape (b : UInt8) : List Char := ['%', upperDigit (b.toNat / 16), upperDigit (b.toNat % 16)]

/-- Writes each byte as itself where it may stand so, and escaped elsewhere. -/
def encode (isLiteral : UInt8 → Bool) (bs : Bytes) : List Char :=
  bs.flatMap fun b => if isLiteral b then [Char.ofNat b.toNat] else escape b

/-- The value of a byte as a hexadecimal digit. -/
def digit? (b : UInt8) : Option Nat :=
  if b.toNat < 128 then Numeral.digitValue? 16 (Char.ofNat b.toNat) else .none

/-- The byte that two digits name. -/
def byte? (a b : UInt8) : Option UInt8 :=
  match digit? a, digit? b with
  | .some x, .some y => .some (UInt8.ofNat (16 * x + y))
  | _, _ => .none

def decode : Bytes → Bytes
  | 37 :: a :: b :: rest =>
    match byte? a b with
    | .some c => c :: decode rest
    | .none => 37 :: decode (a :: b :: rest)
  | c :: rest => c :: decode rest
  | [] => []

end Percent
end MarketSearch
