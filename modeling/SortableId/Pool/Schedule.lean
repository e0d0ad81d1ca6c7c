import SortableId.Pool.Call
import SortableId.Ulid.Basic

/-!
# Schedules of a pool

A pool used by several threads at once. A schedule is a list of actions in the order in which they
happen: a thread begins a call, for entropy or for an identifier, or its innermost call makes one
step. Every interleaving of check-outs, requests and check-ins is the run of some schedule. A
check-out is one action: nothing happens between the look at the idle list and the call of the
factory that follows when the list is empty, and a factory makes no calls on the pool.
-/

namespace SortableId

variable {σ : Type}

/-- A pool and the threads that use it. -/
structure PoolSystem (σ : Type) where
  /-- The pool. -/
  pool : Pool σ
  /-- The threads. -/
  threads : List (Thread σ)

/-- What a thread does next. -/
inductive Turn where
  /-- It begins a call for a millisecond, if none is in progress. -/
  | call (ms : UInt64)
  /-- It begins a call for an identifier, whose time is checked before the pool is touched. -/
  | next (ms : UInt64)
  /-- Its innermost call makes a step. -/
  | step
  deriving DecidableEq, Repr

/-- What happens next. -/
structure PoolAction where
  /-- The thread that acts, by its number. -/
  thread : Nat
  /-- What it does. -/
  turn : Turn
  deriving DecidableEq, Repr

/-- The pool and a thread after the thread's turn. A thread with a call in progress begins no
other. -/
def Pool.turn [PoolSource σ] (attempts : Nat) (pool : Pool σ) (thread : Thread σ) :
    Turn → Pool σ × Thread σ
  | .call ms =>
    match thread with
    | .idle _ => pool.call attempts ms []
    | .busy _ _ => (pool, thread)
  | .next ms =>
    match thread with
    | .idle _ =>
      match Ulid.zero.withTime ms with
      | .ok _ => pool.call attempts ms []
      | .error cause => (pool, .idle (some (.error cause)))
    | .busy _ _ => (pool, thread)
  | .step => pool.step attempts thread

namespace PoolSystem

/-- A pool that has built nothing, and threads that have not called it. -/
def start (factory : Nat → Except String σ) (requested : UInt64) (maxIdle : Option Nat)
    (threads : Nat) : PoolSystem σ :=
  ⟨{ factory, requested, maxIdle }, List.replicate threads (.idle none)⟩

/-- The system after an action; a thread that does not exist does nothing. -/
def act [PoolSource σ] (attempts : Nat) (system : PoolSystem σ) (action : PoolAction) :
    PoolSystem σ :=
  match system.threads[action.thread]? with
  | some thread =>
    let (pool, thread) := system.pool.turn attempts thread action.turn
    ⟨pool, system.threads.set action.thread thread⟩
  | none => system

/-- The system after a schedule. -/
def run [PoolSource σ] (attempts : Nat) (system : PoolSystem σ) (schedule : List PoolAction) :
    PoolSystem σ :=
  schedule.foldl (act attempts) system

/-- The calls that hold a generator. -/
def frames (system : PoolSystem σ) : List (Frame σ) := system.threads.flatMap Thread.frames

end PoolSystem

end SortableId
