/-
Binary numbers as text: the plain decimal, with no exponent however long, and
the form in which data files carry numbers.
-/
import MarketSearch.Binary64.Shortest

namespace MarketSearch
namespace Binary64

/-- Digits with the point `point` digits from the left, zeros filled in where it lies outside. -/
def placePoint (digits : List Char) (point : Int) : List Char × List Char :=
  if point ≤ 0 then (['0'], List.replicate (-point).toNat '0' ++ digits)
  else if digits.length ≤ point.toNat then
    (digits ++ List.replicate (point.toNat - digits.length) '0', [])
  else (digits.take point.toNat, digits.drop point.toNat)

def signChars (negative : Bool) : List Char := if negative then ['-'] else []

/-- The shortest digits, positional whatever the size; a whole number has no point, an exact tie
goes up, and a zero keeps its sign. -/
def plainChars : Binary64 → List Char
  | .finite s 0 _ => signChars s ++ ['0']
  | .finite s m p =>
    let x := shortest .up m p
    let ds := Numeral.digits x.digits
    let (whole, rest) := placePoint ds (ds.length + x.exponent)
    signChars s ++ whole ++ (if rest.isEmpty then [] else '.' :: rest)
  | .infinite s => signChars s ++ ['i', 'n', 'f']
  | .nan => ['N', 'a', 'N']

def plainText (x : Binary64) : String := String.ofList (plainChars x)

/-- The plain text of a finite number with a point in it, `.0` where there would be none. -/
def pointedText (x : Binary64) : String :=
  let cs := plainChars x
  String.ofList (if x.isFinite && !cs.contains '.' then cs ++ ['.', '0'] else cs)

/-- The form used in data: always a point or an exponent.  Numbers from `10^-5` up to below
`10^16` are positional; others have one digit before the point and a signed exponent, and no point
when that is the only digit.  An exact tie goes to the even digit. -/
def dataChars : Binary64 → List Char
  | .finite s 0 _ => signChars s ++ ['0', '.', '0']
  | .finite s m p =>
    let x := shortest .even m p
    let ds := Numeral.digits x.digits
    let e : Int := ds.length + x.exponent - 1
    if -5 ≤ e ∧ e < 16 then
      let (whole, rest) := placePoint ds (e + 1)
      signChars s ++ whole ++ '.' :: (if rest.isEmpty then ['0'] else rest)
    else
      let tail := ds.drop 1
      signChars s ++ ds.take 1 ++ (if tail.isEmpty then [] else '.' :: tail) ++
        'e' :: (if e < 0 then '-' else '+') :: Numeral.digits e.natAbs
  | _ => ['n', 'u', 'l', 'l']

def dataText (x : Binary64) : String := String.ofList (dataChars x)

/-! ## Reading -/

/-- The number closest to `d * 10^t`.  Outside the range of exponents that a finite number other
than zero can have, the result is known without computing the power. -/
def ofDigits (negative : Bool) (d : Nat) (t : Int) : Binary64 :=
  let size : Int := (Numeral.digits d).length + t
  if d = 0 ∨ size < -400 then .finite negative 0 0
  else if 400 < size then .infinite negative
  else
    let (up, down) := tenPow t
    nearest negative (d * up) down

/-- A decimal: digits before the point, digits after it, and the exponent. -/
def ofParts? (negative : Bool) (whole fraction : List Char) (exponent : Int) : Option Binary64 :=
  (Numeral.value? 10 (whole ++ fraction)).map fun d =>
    ofDigits negative d (exponent - fraction.length)

/-- An exponent: an optional sign and one or more digits. -/
def exponent? (cs : List Char) : Option Int :=
  match cs with
  | '-' :: r => (Numeral.value? 10 r).map fun n => -(n : Int)
  | '+' :: r => (Numeral.value? 10 r).map fun n => (n : Int)
  | r => (Numeral.value? 10 r).map fun n => (n : Int)

/-- A decimal without a sign: digits with at most one point, at least one digit in all, and an
exponent after `e`. -/
def decimal? (negative : Bool) (cs : List Char) : Option Binary64 :=
  let isMark := fun c => c == 'e' || c == 'E'
  let body := cs.takeWhile (!isMark ·)
  let exponent : Option Int := match cs.dropWhile (!isMark ·) with
    | [] => .some 0
    | _ :: r => exponent? r
  let whole := body.takeWhile (· != '.')
  let fraction := (body.dropWhile (· != '.')).drop 1
  exponent.bind fun e => ofParts? negative whole fraction e

/-- A number by its name or its digits: `inf`, `infinity` and `nan` in any letter case, or a
decimal, each with an optional sign. -/
def ofText? (s : String) : Option Binary64 :=
  let unsigned (negative : Bool) (cs : List Char) : Option Binary64 :=
    let word := String.ofList (cs.map Char.toLower)
    if word = "inf" ∨ word = "infinity" then .some (.infinite negative)
    else if word = "nan" then .some .nan
    else decimal? negative cs
  match s.toList with
  | '-' :: cs => unsigned true cs
  | '+' :: cs => unsigned false cs
  | cs => unsigned false cs

end Binary64
end MarketSearch
