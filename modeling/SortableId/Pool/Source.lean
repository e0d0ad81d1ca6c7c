import SortableId.Source.Plain

/-!
# Sources of pooled generators

A source of a pooled generator may call the pool that it belongs to before it answers a request, as
often as it likes. A reply is an answer in the making: it is there already, or the source waits for
a call on the pool and goes on with its outcome. A byte source answers by itself.
-/

namespace SortableId

variable {σ α β : Type}

/-- An answer of a pooled source in the making. -/
inductive Reply (σ α : Type) where
  /-- It is there, and the source afterwards. -/
  | own (answer : α) (source : σ)
  /-- The source waits for a call on the pool for this millisecond and goes on with the outcome. -/
  | viaPool (ms : UInt64) (next : Outcome (Vector UInt8 10) → Reply σ α)

/-- Change the answer. -/
def Reply.map (change : α → β) : Reply σ α → Reply σ β
  | own answer source => own (change answer) source
  | viaPool ms next => viaPool ms fun outcome => (next outcome).map change

/-- A source that may call the pool it belongs to before it answers. -/
class PoolSource (σ : Type) where
  /-- How a read ends. -/
  fill (size : Nat) (source : σ) : Reply σ (Outcome (Vector UInt8 size))
  /-- A number below the bound from a native primitive, if there is one, or the text that the
  primitive crashes with. -/
  below (bound : UInt64) (source : σ) : Reply σ (Except String (Option UInt64))

/-- The answer of a byte source to a bounded request. -/
def ByteSource.pick [ByteSource σ] (bound : UInt64) (source : σ) : Except String (Option UInt64) :=
  match ByteSource.belowCrash bound source with
  | some text => .error text
  | none => .ok (ByteSource.below bound source).1

/-- Every byte source answers by itself. -/
instance (priority := low) [ByteSource σ] : PoolSource σ where
  fill size source :=
    let (outcome, source) := ByteSource.fill size source
    .own outcome source
  below bound source := .own (ByteSource.pick bound source) (ByteSource.below bound source).2

/-- A source with a plan of the reads that it answers with the entropy of calls on its pool. -/
structure Reentrant (σ : Type) where
  /-- The source of all other answers. -/
  own : σ
  /-- For each read in turn, the millisecond of the call on the pool if there is one. -/
  visits : List (Option UInt64)
  deriving DecidableEq, Repr

instance [ByteSource σ] : PoolSource (Reentrant σ) where
  fill size source :=
    match source.visits with
    | some ms :: visits => .viaPool ms fun outcome =>
      let bytes := outcome.map fun entropy => Bytes.cycle size entropy.toList
      .own bytes { source with visits }
    | visits =>
      let (outcome, own) := ByteSource.fill size source.own
      .own outcome ⟨own, visits.tail⟩
  below bound source :=
    .own (ByteSource.pick bound source.own)
      { source with own := (ByteSource.below bound source.own).2 }

end SortableId
