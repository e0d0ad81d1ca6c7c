import SortableId.Command.Clock
import SortableId.Command.Job
import SortableId.Ulid.Construction
import SortableId.Ulid.Text

/-!
# Making identifiers

A run makes its identifiers one by one, each for a new reading of the clock. In monotonic mode an
attempt that would exceed the entropy of its millisecond is made again with the next reading; any
other failure ends the run, and what is written stays.
-/

namespace SortableId.Command

variable {σ : Type}

/-- One reading of the clock, and what the attempt for it gave. -/
structure Attempt where
  /-- The time read. -/
  time : UInt64
  /-- The identifier made, or why none was. -/
  outcome : Outcome Ulid
  deriving DecidableEq, Repr

/-- The identifier that an attempt made. -/
def Attempt.made? (attempt : Attempt) : Option Ulid :=
  match attempt.outcome with
  | .value id => some id
  | _ => none

/-- A run under way. -/
structure Run (σ : Type) where
  /-- Where entropy comes from. -/
  generator : Generator σ
  /-- The attempts, latest first. -/
  log : List Attempt := []
  /-- How many of them made an identifier, each a line. -/
  lines : Nat := 0
  /-- How many of them were followed by another one for the same line. -/
  overflows : Nat := 0
  deriving DecidableEq, Repr

namespace Run

/-- A run that has written nothing. -/
def start (order : Generation) (source : σ) : Run σ := { generator := .new source order.increment }

/-- How often a run that has not ended has read the clock. -/
def readings (run : Run σ) : Nat := run.lines + run.overflows

/-- The identifiers written, in order: those that attempts have made. -/
def written (run : Run σ) : List Ulid := run.log.reverse.filterMap Attempt.made?

/-- The lines written, in order. Each is written right after the attempt that made its identifier,
so that they are the lines of all attempts so far: `World` has the run that writes them one by one.
-/
def output (run : Run σ) : List String := run.written.map Ulid.text

end Run

namespace Generation

/-- How the identifiers of an order get their entropy. -/
def entropy [ByteSource σ] (order : Generation) : Entropy (Generator σ) :=
  if order.monotonic then .monotonic inferInstance else .random inferInstance

/-- One attempt for a reading of the clock: the run after it, and how it ended if it did. -/
def attempt [ByteSource σ] (attempts : Nat) (order : Generation) (now : UInt64) (run : Run σ) :
    Outcome Unit × Run σ :=
  let (outcome, generator) := Ulid.new attempts now order.entropy run.generator
  let run := { run with generator, log := ⟨now, outcome⟩ :: run.log }
  match outcome with
  | .value _ => (.value (), { run with lines := run.lines + 1 })
  | .error cause =>
    if order.monotonic ∧ cause = .monotonicOverflow then
      (.value (), { run with overflows := run.overflows + 1 })
    else (.error cause, run)
  | .crash text => (.crash text, run)
  | .unfinished => (.unfinished, run)

/-- Attempts until all identifiers are written, with at most `fuel` readings of the clock. -/
def proceed [ByteSource σ] (attempts : Nat) (order : Generation) (clock : Clock) :
    (fuel : Nat) → Run σ → Outcome Unit × Run σ
  | 0, run => (if order.count ≤ run.lines then .value () else .unfinished, run)
  | fuel + 1, run =>
    if order.count ≤ run.lines then (.value (), run)
    else
      match attempt attempts order (clock run.readings run.lines) run with
      | (.value (), run) => proceed attempts order clock fuel run
      | ended => ended

/-- Makes the identifiers of an order. -/
def perform [ByteSource σ] (attempts fuel : Nat) (order : Generation) (clock : Clock) (source : σ) :
    Outcome Unit × Run σ :=
  proceed attempts order clock fuel (Run.start order source)

end Generation

end SortableId.Command
