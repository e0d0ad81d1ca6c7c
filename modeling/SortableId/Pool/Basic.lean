import SortableId.Generator.Basic
import SortableId.Guarded

/-!
# A pool of generators

A pool lends out monotonic generators. A call checks one out, the one returned last or a new one
when none is idle, uses it outside the lock, and checks it in again; a generator that would exceed
the number allowed idle is dropped. The lock guards the list of idle generators and nothing else.
Every generator keeps the number under which it was built, and the pool keeps a record of what
happened to each.
-/

namespace SortableId

variable {σ : Type}

/-- A generator of a pool. -/
structure Member (σ : Type) where
  /-- How many were built before it. -/
  serial : Nat
  /-- The generator. -/
  generator : Generator σ
  deriving DecidableEq, Repr

/-- What happens to the generators of a pool. -/
inductive PoolEvent where
  /-- The factory was called for this number. -/
  | built (serial : Nat)
  /-- The source of this generator got a request. -/
  | asked (serial : Nat) (request : Request)
  /-- The generator went back to the idle ones. -/
  | returned (serial : Nat)
  /-- The generator was one too many to stay idle. -/
  | dropped (serial : Nat)
  /-- The call that held the generator crashed. -/
  | lost (serial : Nat)
  deriving DecidableEq, Repr

/-- A pool of monotonic generators. -/
structure Pool (σ : Type) where
  /-- Makes the source of a new generator from its number, or crashes with a text. -/
  factory : Nat → Except String σ
  /-- The increment bound requested for every generator. -/
  requested : UInt64
  /-- How many generators may stay idle, if there is a limit. -/
  maxIdle : Option Nat := none
  /-- The idle generators behind their lock, the one returned last in front. -/
  idle : Guarded (List (Member σ)) := { content := [] }
  /-- How often the factory was called. -/
  built : Nat := 0
  /-- What happened so far, latest first. -/
  events : List PoolEvent := []

namespace Pool

/-- How many generators are idle. -/
def idleCount (pool : Pool σ) : Outcome Nat :=
  (pool.idle.enter fun members => (.value members.length, members)).1

/-- Notes an event. -/
def note (pool : Pool σ) (event : PoolEvent) : Pool σ :=
  { pool with events := event :: pool.events }

/-- Takes the generator returned last off the idle list. -/
def takeIdle : List (Member σ) → Outcome (Option (Member σ)) × List (Member σ)
  | [] => (.value none, [])
  | member :: rest => (.value (some member), rest)

/-- Calls the factory for a new generator. -/
def build (pool : Pool σ) : Outcome (Member σ) × Pool σ :=
  let serial := pool.built
  let pool := { pool with built := serial + 1 }.note (.built serial)
  match pool.factory serial with
  | .ok source => (.value ⟨serial, Generator.new source pool.requested⟩, pool)
  | .error text => (.crash text, pool)

/-- Checks a generator out: the one returned last, or a new one. Taking it off the idle list and,
when none is idle, calling the factory are one step, in which no other call acts. The factory is a
function of the number alone: it cannot call the pool. -/
def checkOut (pool : Pool σ) : Outcome (Member σ) × Pool σ :=
  let (outcome, idle) := pool.idle.enter takeIdle
  let pool := { pool with idle }
  match outcome with
  | .value (some member) => (.value member, pool)
  | .value none => pool.build
  | .error cause => (.error cause, pool)
  | .crash text => (.crash text, pool)
  | .unfinished => (.unfinished, pool)

/-- Puts a generator in front of the idle ones unless as many as allowed are there, and tells
whether it did. -/
def putIdle (maxIdle : Option Nat) (member : Member σ) (members : List (Member σ)) :
    Outcome Bool × List (Member σ) :=
  if maxIdle.any fun limit => decide (limit ≤ members.length) then (.value false, members)
  else (.value true, member :: members)

/-- Checks a generator in. -/
def checkIn (member : Member σ) (pool : Pool σ) : Pool σ :=
  let (outcome, idle) := pool.idle.enter (putIdle pool.maxIdle member)
  let pool := { pool with idle }
  match outcome with
  | .value true => pool.note (.returned member.serial)
  | _ => pool.note (.dropped member.serial)

/-- The record in the order of events, and the pool with an empty record. -/
def takeEvents (pool : Pool σ) : List PoolEvent × Pool σ :=
  (pool.events.reverse, { pool with events := [] })

/-- How a pool is shown to a programmer: its generators stay hidden. -/
def describe (pool : Pool σ) : String :=
  let limit := match pool.maxIdle with
    | some limit => "Some(" ++ toString limit ++ ")"
    | none => "None"
  "PooledMonotonic \x7b inc: " ++ toString pool.requested.toNat ++ ", max_idle: " ++ limit
    ++ ", .. \x7d"

end Pool

end SortableId
