import SortableId.Ulid.Construction

/-!
# Surveys of a source

What can be said of a source by using it, whichever bytes it gives: bounded numbers stay below
their bound, reads of the same length differ, and identifiers made from it carry their time and,
from a generator, increase by steps that its bound allows.
-/

namespace SortableId

/-- Observations of a source. -/
structure Survey where
  /-- It answers bounded requests. -/
  native : Bool
  /-- Its bounded answers are below their bound. -/
  inRange : Bool
  /-- A read of 32 bytes is not left blank. -/
  filled : Bool
  /-- Two reads of 32 bytes differ. -/
  differs : Bool
  /-- The timestamps of identifiers made from it. -/
  times : List UInt64
  /-- How many different identifiers were made by plain reads. -/
  unique : Nat
  /-- Identifiers of a generator over it increase. -/
  increasing : Bool
  /-- Their steps are in the range that the bound allows. -/
  withinBound : Bool
  /-- The millisecond that the generator remembers at the end. -/
  lastTick : Option UInt64
  deriving DecidableEq, Repr

namespace Survey

/-- Whether each value is above the one before by a step that the bound allows. -/
def allowedSteps (bound : UInt64) : List Nat → Bool
  | first :: second :: rest =>
    decide (first + 1 ≤ second ∧ second ≤ first + max 1 (bound.toNat - 1))
      && allowedSteps bound (second :: rest)
  | _ => true

/-- Takes a number of bounded numbers. -/
def bounded {σ : Type} [ByteSource σ] (bound : UInt64) : Nat → σ → List (Option UInt64) × σ
  | 0, source => ([], source)
  | count + 1, source =>
    let (answer, source) := ByteSource.below bound source
    let (rest, source) := bounded bound count source
    (answer :: rest, source)

/-- Takes bounded numbers, two reads, identifiers from plain reads and identifiers from a generator
with the requested increment bound. -/
def take {σ : Type} [ByteSource σ] (attempts count : Nat) (bound ms requested : UInt64)
    (source : σ) : Outcome Survey :=
  let (answers, source) := bounded bound count source
  let (reads, source) := Outcome.collect (ByteSource.fill 32) 2 source
  let (plain, source) := Outcome.collect (Ulid.withRandom ms) count source
  let (monotonic, generator) :=
    Outcome.collect (Ulid.withMonotonic attempts ms) count (Generator.new source requested)
  reads.bind fun reads => plain.bind fun plain => monotonic.map fun monotonic => {
    native := answers.all Option.isSome
    inRange := answers.all fun answer => answer.all (· < bound)
    filled := reads.all fun bytes => bytes.any (· != 0)
    differs := reads.eraseDups.length == reads.length
    times := Ulid.times (plain ++ monotonic)
    unique := (Ulid.distinct plain).length
    increasing := Ulid.increasing monotonic
    withinBound := allowedSteps generator.bound (monotonic.map fun id => id.entropyValue.toNat)
    lastTick := generator.last.map Prod.fst }

end Survey

end SortableId
