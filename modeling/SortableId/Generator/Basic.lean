import SortableId.Generator.Counter

/-!
# Monotonic generators

A generator is a counter with a byte source of its own. A fill is all or nothing: it records a
value and delivers its bytes, or it leaves memory and destination alone and only the source has
moved. Read as a plain source, a generator passes requests on and its memory does not change.
-/

namespace SortableId

/-- A monotonic generator over a byte source. -/
structure Generator (σ : Type) extends Counter where
  /-- Where fresh values and increments come from. -/
  source : σ
  deriving DecidableEq, Repr

/-- A source of entropy values that increase within a millisecond. -/
class MonotonicSource (σ : Type) where
  /-- The entropy bytes for a millisecond. -/
  fillMonotonic (attempts : Nat) (ms : UInt64) (source : σ) : Outcome (Vector UInt8 10) × σ

namespace Generator

variable {σ : Type}

/-- A generator that has handed out nothing. -/
def new (source : σ) (requested : UInt64) : Generator σ := ⟨Counter.new requested, source⟩

/-- A generator that has handed out a value already. -/
def resume (tick : UInt64) (value : UInt80) (requested : UInt64) (source : σ) : Generator σ :=
  ⟨Counter.resume tick value requested, source⟩

/-- The bytes for a millisecond. -/
def fill [ByteSource σ] (attempts : Nat) (ms : UInt64) (generator : Generator σ) :
    Outcome (Vector UInt8 10) × Generator σ :=
  let (outcome, source) := (generator.toCounter.next attempts ms).run generator.source
  (outcome.map UInt80.toBytes, ⟨generator.toCounter.record ms outcome, source⟩)

/-- The bytes for a millisecond written over a destination. The source never sees the destination:
it fills local buffers, which are dropped if it fails, and the destination is written at the end. -/
def fillInto [ByteSource σ] (attempts : Nat) (ms : UInt64) (destination : Vector UInt8 10)
    (generator : Generator σ) : Outcome Unit × Vector UInt8 10 × Generator σ :=
  let (outcome, generator) := generator.fill attempts ms
  (outcome.map fun _ => (), outcome.into destination, generator)

end Generator

variable {σ : Type}

instance [ByteSource σ] : MonotonicSource (Generator σ) where
  fillMonotonic := Generator.fill

instance [ByteSource σ] : ByteSource (Generator σ) where
  fill size generator :=
    let (outcome, source) := ByteSource.fill size generator.source
    (outcome, { generator with source })
  below bound generator :=
    let (answer, source) := ByteSource.below bound generator.source
    (answer, { generator with source })
  belowCrash bound generator := ByteSource.belowCrash bound generator.source

end SortableId
