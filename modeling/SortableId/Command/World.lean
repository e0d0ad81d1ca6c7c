import SortableId.Command.Run
import SortableId.Source.Plain

/-!
# Runs in a world

The program takes the time and its entropy from the world around it and gives its lines to that. A
world is a set of actions in a monad. A run in a world makes the attempts of `Generation.proceed`,
each with its own reading of the clock, and writes the line of an identifier as soon as the attempt
has made it.
-/

namespace SortableId.Command

namespace Supply

variable {ρ φ : Type}

/-- The type of the source that a supply stands for, where the system has one and a fast one. -/
def Source (ρ φ : Type) : Supply → Type
  | system => ρ
  | quick => φ
  | zero => Zeros

instance [ByteSource ρ] [ByteSource φ] : (supply : Supply) → ByteSource (supply.Source ρ φ)
  | system => inferInstanceAs (ByteSource ρ)
  | quick => inferInstanceAs (ByteSource φ)
  | zero => inferInstanceAs (ByteSource Zeros)

/-- The source that a supply stands for: zeros are always at hand. -/
def source (system : ρ) (quick : φ) : (supply : Supply) → supply.Source ρ φ
  | .system => system
  | .quick => quick
  | .zero => Zeros.mk

end Supply

/-- What a run finds around it. -/
structure World (m : Type → Type) (σ : Type) where
  /-- Prepares the source of entropy for an attempt. -/
  refresh (source : σ) : m σ
  /-- Reads the clock, which may know how many readings it gave and how many lines are written. -/
  now (readings lines : Nat) : m UInt64
  /-- Writes a line. -/
  write (line : String) : m Unit
  /-- Waits before another attempt for the same line. -/
  wait (backoff : Backoff) : m Unit

namespace Run

variable {σ : Type}

/-- The identifier that the last attempt made, if it made one. -/
def latest? (run : Run σ) : Option Ulid := run.log.head?.bind Attempt.made?

/-- A run without its log, which its lines do not need once they are written. -/
def forget (run : Run σ) : Run σ := { run with log := [] }

end Run

namespace Generation

variable {m : Type → Type} [Monad m] {σ : Type} [ByteSource σ]

/-- One attempt in a world. If it makes an identifier the line is written, and if it overflows the
run waits. -/
@[specialize]
def attemptIn (world : World m σ) (attempts : Nat) (order : Generation) (run : Run σ) :
    m (Outcome Unit × Run σ) := do
  let source ← world.refresh run.generator.source
  let now ← world.now run.readings run.lines
  let generator := { run.generator with source }
  let (ended, after) := order.attempt attempts now { run with generator }
  if let some id := after.latest? then world.write id.text
  if run.overflows < after.overflows then world.wait order.backoff
  return (ended, after)

/-- Attempts in a world until all identifiers are written, with at most `fuel` readings of the
clock. -/
@[specialize]
def proceedIn (world : World m σ) (attempts : Nat) (order : Generation) :
    (fuel : Nat) → Run σ → m (Outcome Unit)
  | 0, run => return if order.count ≤ run.lines then .value () else .unfinished
  | fuel + 1, run =>
    if order.count ≤ run.lines then return .value ()
    else do
      let (ended, after) ← order.attemptIn world attempts run
      match ended with
      | .value () => proceedIn world attempts order fuel after.forget
      | ended => return ended

/-- Makes the identifiers of an order in a world. -/
@[specialize]
def performIn (world : World m σ) (attempts fuel : Nat) (order : Generation) (source : σ) :
    m (Outcome Unit) :=
  proceedIn world attempts order fuel (Run.start order source)

end Generation

end SortableId.Command
