/-
Dates and times in settings files, and how they read as texts.
-/
import MarketSearch.Numeral

namespace MarketSearch
namespace Toml

/-- A number of exactly so many digits that lies between two bounds. -/
def readField (digits low high : Nat) (cs : List Char) : Option (List Char × List Char) :=
  let ds := cs.take digits
  if ds.length = digits then
    (Numeral.value? 10 ds).bind fun n =>
      if low ≤ n ∧ n ≤ high then .some (ds, cs.drop digits) else .none
  else .none

def readSign (mark : Char) : List Char → Option (List Char)
  | c :: cs => if c = mark then .some cs else .none
  | [] => .none

/-! ## Dates -/

def isLeapYear (y : Nat) : Bool := (y % 4 == 0 && y % 100 != 0) || y % 400 == 0

def daysIn (year month : Nat) : Nat :=
  if month = 2 then (if isLeapYear year then 29 else 28)
  else if month = 4 ∨ month = 6 ∨ month = 9 ∨ month = 11 then 30
  else 31

def number (ds : List Char) : Nat := (Numeral.value? 10 ds).getD 0

/-- A year, a month and a day of it. -/
def readDate (cs : List Char) : Option (List Char × List Char) := do
  let (y, r) ← readField 4 0 9999 cs
  let (m, r) ← readField 2 1 12 (← readSign '-' r)
  let (d, r) ← readField 2 1 (daysIn (number y) (number m)) (← readSign '-' r)
  return (y ++ '-' :: m ++ '-' :: d, r)

/-! ## Times -/

/-- The digits of a fraction of a second: at most nine, without zeros at the end but for one. -/
def fractionText (ds : List Char) : List Char :=
  let kept := ((ds.take 9).reverse.dropWhile (· == '0')).reverse
  '.' :: (if kept.isEmpty then ['0'] else kept)

/-- Seconds and their fraction; both may be missing. -/
def readSeconds (cs : List Char) : Option (List Char × List Char) :=
  match cs with
  | ':' :: r =>
    (readField 2 0 60 r).bind fun (s, r) =>
      match r with
      | '.' :: f =>
        let ds := f.takeWhile Char.isDigit
        if ds.isEmpty then .none else .some (':' :: s ++ fractionText ds, f.dropWhile Char.isDigit)
      | r => .some (':' :: s, r)
  | r => .some ([], r)

def readTime (cs : List Char) : Option (List Char × List Char) := do
  let (h, r) ← readField 2 0 23 cs
  let (m, r) ← readField 2 0 59 (← readSign ':' r)
  let (s, r) ← readSeconds r
  return (h ++ ':' :: m ++ s, r)

/-- How far a clock is ahead of the common time, if it says so. -/
def readOffset (cs : List Char) : Option (List Char × List Char) :=
  let signed (sign : Char) (r : List Char) : Option (List Char × List Char) := do
    let (h, r) ← readField 2 0 23 r
    let (m, r) ← readField 2 0 59 (← readSign ':' r)
    let sign := if number h = 0 ∧ number m = 0 then '+' else sign
    return (sign :: h ++ ':' :: m, r)
  match cs with
  | 'Z' :: r => .some (['Z'], r)
  | 'z' :: r => .some (['Z'], r)
  | '+' :: r => signed '+' r
  | '-' :: r => signed '-' r
  | r => .some ([], r)

/-- Whether a time follows the mark between date and time. -/
def timeFollows : List Char → Bool
  | c :: d :: _ => c == 'T' || c == 't' || (c == ' ' && d.isDigit)
  | _ => false

/-- A date, a time, or both, in the usual form. -/
def readMoment (cs : List Char) : Option (List Char × List Char) :=
  match readDate cs with
  | .some (d, r) =>
    if timeFollows r then do
      let (t, r) ← readTime (r.drop 1)
      let (o, r) ← readOffset r
      return (d ++ 'T' :: t ++ o, r)
    else .some (d, r)
  | .none => readTime cs

end Toml
end MarketSearch
