/-
Numerals: natural numbers and integers as digits, written and read.
-/
namespace MarketSearch
namespace Numeral

/-- The character of a digit below sixteen. -/
def digitChar (d : Nat) : Char :=
  if d < 10 then Char.ofNat (48 + d) else Char.ofNat (87 + d)

/-- The value of a digit in a base up to sixteen, in either case. -/
def digitValue? (base : Nat) (c : Char) : Option Nat :=
  let n := c.toNat
  let d :=
    if 48 ≤ n ∧ n ≤ 57 then n - 48
    else if 97 ≤ n ∧ n ≤ 102 then n - 87
    else if 65 ≤ n ∧ n ≤ 70 then n - 55
    else base
  if d < base then .some d else .none

/-- The digits of `n` in base `b + 2`, most significant first. -/
def inBase (b n : Nat) : List Char :=
  if n < b + 2 then [digitChar n]
  else inBase b (n / (b + 2)) ++ [digitChar (n % (b + 2))]
termination_by n
decreasing_by exact Nat.div_lt_self (by omega) (by omega)

/-- The decimal digits of `n`. -/
def digits (n : Nat) : List Char := inBase 8 n

/-- The hexadecimal digits of `n`, in lower case. -/
def hex (n : Nat) : List Char := inBase 14 n

def text (n : Nat) : String := String.ofList (digits n)

/-- A decimal numeral with a minus sign where needed. -/
def intChars : Int → List Char
  | .ofNat n => digits n
  | .negSucc n => '-' :: digits (n + 1)

def intText (n : Int) : String := String.ofList (intChars n)

/-- The value of digits, most significant first, after digits worth `acc`. -/
def valueFrom (base acc : Nat) : List Char → Option Nat
  | [] => .some acc
  | c :: cs => (digitValue? base c).bind fun d => valueFrom base (base * acc + d) cs

/-- Reads one or more digits and nothing else. -/
def value? (base : Nat) (cs : List Char) : Option Nat :=
  if cs.isEmpty then .none else valueFrom base 0 cs

/-- Reads a decimal numeral that may carry a plus sign and is at most `max`. -/
def natUpTo? (max : Nat) (cs : List Char) : Option Nat :=
  let body := match cs with
    | '+' :: r => r
    | r => r
  (value? 10 body).filter (· ≤ max)

/-- Reads a decimal numeral that may carry a sign and lies in the 64-bit signed range. -/
def int64? (cs : List Char) : Option Int :=
  let n? := match cs with
    | '-' :: r => (value? 10 r).map fun n => -(n : Int)
    | '+' :: r => (value? 10 r).map fun n => (n : Int)
    | r => (value? 10 r).map fun n => (n : Int)
  n?.filter fun n => -(Nat.pow 2 63 : Int) ≤ n && n < Nat.pow 2 63

end Numeral
end MarketSearch
