import SortableId.Outcome

/-!
# Byte sources

A byte source is a state that answers two requests: for a number of bytes, which may fail, and for
a number below a bound, which a source without a native primitive leaves unanswered. Its code may
crash in either. `Draws` is a computation that makes such requests without knowing the source;
`Draws.run` answers it from one.
-/

namespace SortableId

/-- A request to a byte source. -/
inductive Request where
  /-- Bytes, by count. -/
  | fill (size : Nat)
  /-- A number below a bound that is not zero. -/
  | below (bound : UInt64)
  deriving DecidableEq, Repr

/-- A source of bytes and, perhaps, of bounded numbers. -/
class ByteSource (σ : Type) where
  /-- Bytes by count, and the source afterwards. Who uses the bytes of a source hands it a local
  buffer and drops that when the fill fails, so that bytes written before a failure are no part of
  it. -/
  fill (size : Nat) (source : σ) : Outcome (Vector UInt8 size) × σ
  /-- A number below the bound from a native primitive, if there is one. -/
  below (bound : UInt64) (source : σ) : Option UInt64 × σ := (none, source)
  /-- The text that the native primitive crashes with, where it crashes in place of an answer. -/
  belowCrash (_bound : UInt64) (_source : σ) : Option String := none

/-- A computation that asks a byte source for what it needs. A read that fails ends it. -/
inductive Draws (α : Type) where
  /-- No request is left. -/
  | done (outcome : Outcome α)
  /-- Read bytes and go on with them. -/
  | read (size : Nat) (next : Vector UInt8 size → Draws α)
  /-- Ask for a bounded number and go on with the answer. -/
  | pick (bound : UInt64) (next : Option UInt64 → Draws α)

namespace Draws

variable {α β σ : Type}

/-- Go on with the value of a computation. -/
def bind : Draws α → (α → Draws β) → Draws β
  | done (.value result), next => next result
  | done (.error cause), _ => done (.error cause)
  | done (.crash text), _ => done (.crash text)
  | done .unfinished, _ => done .unfinished
  | read size more, next => read size fun bytes => (more bytes).bind next
  | pick bound more, next => pick bound fun answer => (more answer).bind next

/-- Go on after a read: with its bytes, or end as it ended. -/
def afterRead {size : Nat} (next : Vector UInt8 size → Draws α) :
    Outcome (Vector UInt8 size) → Draws α
  | .value bytes => next bytes
  | .error cause => done (.error cause)
  | .crash text => done (.crash text)
  | .unfinished => done .unfinished

/-- Go on after a bounded request: with the answer, or end in the crash that came in its place. -/
def afterPick (next : Option UInt64 → Draws α) : Except String (Option UInt64) → Draws α
  | .ok answer => next answer
  | .error text => done (.crash text)

/-- Answer all requests from one source. -/
def run [ByteSource σ] : Draws α → σ → Outcome α × σ
  | done outcome, source => (outcome, source)
  | read size next, source =>
    match ByteSource.fill size source with
    | (.value bytes, source) => (next bytes).run source
    | (.error cause, source) => (.error cause, source)
    | (.crash text, source) => (.crash text, source)
    | (.unfinished, source) => (.unfinished, source)
  | pick bound next, source =>
    let (answer, after) := ByteSource.below bound source
    match ByteSource.belowCrash bound source with
    | some text => (.crash text, after)
    | none => (next answer).run after

end Draws

end SortableId
