/-
The sources that take part in a search: at most one adapter for each.

The first adapter registered for a source stays; a second one is refused and
changes nothing.  Whatever the order of registration, adapters are listed in
the canonical order of their sources.
-/
import MarketSearch.Batch

namespace MarketSearch

inductive RegistryFault where
  | duplicate (source : Source)
  | noSources
  | client (fault : SourceFault)
deriving DecidableEq

def RegistryFault.message : RegistryFault → String
  | .duplicate s => "source " ++ s.label ++ " is already registered"
  | .noSources => "no sources registered"
  | .client e => e.message

/-- The adapter of each source that has one. -/
structure Registry where
  get? : Source → Option Adapter
  source_of_get? : ∀ {s : Source} {a : Adapter}, get? s = .some a → a.source = s

namespace Registry

def empty : Registry := ⟨fun _ => .none, by simp⟩

/-- Adds an adapter, over one that may be there. -/
def put (r : Registry) (a : Adapter) : Registry where
  get? s := if s = a.source then .some a else r.get? s
  source_of_get? := by
    intro s b h
    split at h
    · simp_all
    · exact r.source_of_get? h

def register (r : Registry) (a : Adapter) : Except RegistryFault Registry :=
  if (r.get? a.source).isSome then .error (.duplicate a.source) else .ok (r.put a)

/-- Registers adapters one after the other, up to the first that is refused. -/
def registerAll (r : Registry) (as : List Adapter) : Except RegistryFault Registry :=
  as.foldlM register r

/-! ## Views -/

/-- The adapters in canonical order. -/
def adapters (r : Registry) : List Adapter := Source.all.filterMap r.get?

def sources (r : Registry) : List Source := Source.all.filter fun s => (r.get? s).isSome

def size (r : Registry) : Nat := r.sources.length

def isEmpty (r : Registry) : Bool := r.sources.isEmpty

def ensureNotEmpty (r : Registry) : Except RegistryFault Unit :=
  if r.isEmpty then .error .noSources else .ok ()

theorem mem_sources {r : Registry} {s : Source} : s ∈ r.sources ↔ (r.get? s).isSome := by
  simp [sources, Source.mem_all]

theorem get?_put_self (r : Registry) (a : Adapter) : (r.put a).get? a.source = .some a := by
  simp [put]

theorem get?_put_other (r : Registry) {a : Adapter} {s : Source} (h : s ≠ a.source) :
    (r.put a).get? s = r.get? s := by
  simp [put, h]

end Registry
end MarketSearch
