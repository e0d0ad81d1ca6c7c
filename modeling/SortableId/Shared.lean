import SortableId.Generator.Basic
import SortableId.Guarded

/-!
# A generator behind one lock

Any number of handles share one generator. Each call holds the lock for its whole length, so the
calls of all handles are one sequence. Read as a plain source, a shared generator takes the lock
for every read and has no native bounded number.
-/

namespace SortableId

/-- A monotonic generator shared by handles. -/
structure Shared (σ : Type) where
  /-- The generator and its lock. -/
  lock : Guarded (Generator σ)
  /-- How many handles there are. -/
  handles : Nat := 1
  deriving DecidableEq, Repr

namespace Shared

variable {σ : Type}

/-- Shares a generator under one handle. -/
def ofGenerator (generator : Generator σ) : Shared σ := { lock := { content := generator } }

/-- Shares a generator that has handed out nothing. -/
def new (source : σ) (requested : UInt64) : Shared σ :=
  ofGenerator (Generator.new source requested)

/-- Another handle on the same generator. -/
def clone (shared : Shared σ) : Shared σ := { shared with handles := shared.handles + 1 }

/-- One handle less. -/
def drop (shared : Shared σ) : Shared σ := { shared with handles := shared.handles - 1 }

/-- The bytes for a millisecond, under the lock. -/
def fill [ByteSource σ] (attempts : Nat) (ms : UInt64) (shared : Shared σ) :
    Outcome (Vector UInt8 10) × Shared σ :=
  let (outcome, lock) := shared.lock.enter (Generator.fill attempts ms)
  (outcome, { shared with lock })

/-- Plain bytes, under the lock. -/
def read [ByteSource σ] (size : Nat) (shared : Shared σ) :
    Outcome (Vector UInt8 size) × Shared σ :=
  let (outcome, lock) := shared.lock.enter (ByteSource.fill size)
  (outcome, { shared with lock })

/-- How a shared generator is shown to a programmer: its state stays hidden. -/
def describe (_shared : Shared σ) : String := "LockedMonotonic \x7b .. \x7d"

end Shared

variable {σ : Type}

instance [ByteSource σ] : MonotonicSource (Shared σ) where
  fillMonotonic := Shared.fill

instance [ByteSource σ] : ByteSource (Shared σ) where
  fill := Shared.read

end SortableId
