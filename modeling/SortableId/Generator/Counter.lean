import SortableId.Generator.Increment
import SortableId.UInt80

/-!
# Monotonic memory

A counter remembers the last millisecond and the entropy value handed out for it. Within the same
millisecond the next value is the last one plus a random increment; any other millisecond starts
from a fresh value. `Counter.next` says which draws make the next value and leaves the memory
alone; `Counter.record` notes a value that was handed out.
-/

namespace SortableId

/-- The bound in effect when none is requested. -/
def defaultIncrementBound : UInt64 := 0x100000000

/-- What a monotonic generator remembers. -/
structure Counter where
  /-- Increments are below this bound, or 1 when the bound is 1. -/
  bound : UInt64
  /-- The last millisecond and the value handed out for it. -/
  last : Option (UInt64 × UInt80)
  deriving DecidableEq, Repr

namespace Counter

/-- The bound in effect for a requested one: zero requests the default. -/
def effectiveBound (requested : UInt64) : UInt64 :=
  if requested = 0 then defaultIncrementBound else requested

/-- A counter that has handed out nothing. -/
def new (requested : UInt64) : Counter := ⟨effectiveBound requested, none⟩

/-- A counter that has handed out a value already. -/
def resume (tick : UInt64) (value : UInt80) (requested : UInt64) : Counter :=
  ⟨effectiveBound requested, some (tick, value)⟩

/-- Draws a fresh value. -/
def fresh : Draws UInt80 := .read 10 fun bytes => .done (.value (UInt80.ofBytes bytes))

/-- Draws an increment and adds it, unless the sum needs more than 80 bits. -/
def advance (attempts : Nat) (bound : UInt64) (value : UInt80) : Draws UInt80 :=
  (Increment.draw attempts bound).bind fun increment =>
    match value.checkedAdd increment with
    | some sum => .done (.value sum)
    | none => .done (.error .monotonicOverflow)

/-- The draws of the next value for a millisecond. -/
def next (attempts : Nat) (ms : UInt64) (counter : Counter) : Draws UInt80 :=
  match counter.last with
  | some (tick, value) => if tick = ms then advance attempts counter.bound value else fresh
  | none => fresh

/-- The memory after a value was drawn for a millisecond, or not. -/
def record (ms : UInt64) (counter : Counter) : Outcome UInt80 → Counter
  | .value value => { counter with last := some (ms, value) }
  | _ => counter

end Counter

end SortableId
