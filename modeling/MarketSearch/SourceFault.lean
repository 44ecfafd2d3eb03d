/-
What can go wrong with a source.
-/
import MarketSearch.Source
import MarketSearch.Violation

namespace MarketSearch

inductive SourceFault where
  | unavailable (origin : Source) (message : String)
  /-- An answer that did not come in time, and the milliseconds it was given where they are
  known. -/
  | timeout (origin : Source) (milliseconds : Option Nat)
  | malformed (origin : Source) (message : String)
  | configuration (origin : Source) (message : String)
deriving DecidableEq

namespace SourceFault

def origin : SourceFault → Source
  | .unavailable s _ => s
  | .timeout s _ => s
  | .malformed s _ => s
  | .configuration s _ => s

def message : SourceFault → String
  | .unavailable s m => "source unavailable: " ++ s.label ++ " - " ++ m
  | .timeout s ms =>
    "source timeout: " ++ s.label ++
      (match ms with
        | .some n => " after " ++ Numeral.text n ++ "ms"
        | .none => "")
  | .malformed s m => "malformed record from " ++ s.label ++ ": " ++ m
  | .configuration s m => "source configuration error: " ++ s.label ++ " - " ++ m

/-- Whether the fault concerns the source alone, so that a search goes on without it. -/
def isLocal : SourceFault → Bool
  | .unavailable .. => true
  | .timeout .. => true
  | _ => false

def isTimeout : SourceFault → Bool
  | .timeout .. => true
  | _ => false

/-- A record of the source that breaks a rule of the domain. -/
def ofViolation (origin : Source) (v : Violation) : SourceFault := .malformed origin v.message

end SourceFault
end MarketSearch
