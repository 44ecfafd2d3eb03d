/-
What a source answers: records, and the products made of them.

A record that does not become a product of the source it came from is dropped
by itself and counted; the others keep their order.
-/
import MarketSearch.Filter
import MarketSearch.Product.Basic
import MarketSearch.SourceFault

namespace MarketSearch

/-! ## Replies -/

/-- An answer, and the milliseconds that pass before it comes. -/
structure Reply (α : Type) where
  delay : Nat
  answer : Except SourceFault α

/-- The answer as seen by someone who waits `limit` milliseconds for the source. -/
def Reply.within {α : Type} (r : Reply α) (source : Source) (limit : Nat) : Except SourceFault α :=
  if limit < r.delay then .error (.timeout source (.some limit)) else r.answer

/-! ## Batches -/

/-- The products of one answer, and how many of its records gave none. -/
structure Batch where
  products : List Product
  dropped : Nat
deriving DecidableEq

def Batch.received (b : Batch) : Nat := b.products.length + b.dropped

/-! ## Bindings -/

/-- A client of a source and the way its records become products.  The reply may depend on how
many searches came before. -/
structure Binding (ρ : Type) where
  source : Source
  fetch : (turn : Nat) → Filter → Reply (List ρ)
  map : ρ → Except SourceFault Product

namespace Binding

variable {ρ : Type}

/-- The product of a record.  One that bears the name of another source is refused. -/
def mapRecord (b : Binding ρ) (record : ρ) : Except SourceFault Product :=
  match b.map record with
  | .ok p =>
    if p.source = b.source then .ok p
    else .error (.malformed b.source ("mapper tagged product with " ++ p.source.label))
  | .error e => .error e

/-- The batch of a list of records. -/
def batch (b : Binding ρ) : List ρ → Batch
  | [] => ⟨[], 0⟩
  | r :: rs =>
    let rest := batch b rs
    match b.mapRecord r with
    | .ok p => { rest with products := p :: rest.products }
    | .error _ => { rest with dropped := rest.dropped + 1 }

theorem received_batch (b : Binding ρ) (rs : List ρ) : (b.batch rs).received = rs.length := by
  induction rs with
  | nil => rfl
  | cons r rs ih =>
    unfold batch
    simp only [Batch.received] at ih ⊢
    split <;> simp <;> omega

end Binding

/-! ## Adapters -/

/-- A source as a search sees it: only its batches. -/
structure Adapter where
  source : Source
  fetch : (turn : Nat) → Filter → Reply Batch

def Binding.adapter {ρ : Type} (b : Binding ρ) : Adapter where
  source := b.source
  fetch turn f :=
    let r := b.fetch turn f
    ⟨r.delay, r.answer.map b.batch⟩

end MarketSearch
