import SortableId.Pool.Basic
import SortableId.Pool.Source

/-!
# Calls on a pool

The source of a generator may call the pool while it is asked, so calls nest: a thread has one call
that makes steps and, under it, the calls whose sources wait. Each of them holds one generator.
`Pool.step` takes the innermost call one request or answer further, or finishes it: its generator
goes back to the pool, also after an error, but is lost after a crash, and its outcome goes to the
source that waits for it. Any order of steps of several threads is a run of the pool; `Pool.fill` is
the run of one call alone.
-/

namespace SortableId

variable {σ : Type}

/-- What a call in progress has still to do. -/
inductive Pending (σ : Type) where
  /-- To make these draws. -/
  | draw (draws : Draws UInt80)
  /-- To make the draws that the answer of its source leads to. -/
  | answer (reply : Reply σ (Draws UInt80))

/-- A call in progress. -/
structure Frame (σ : Type) where
  /-- The generator it holds. -/
  member : Member σ
  /-- The millisecond it is for. -/
  ms : UInt64
  /-- What it has still to do. -/
  pending : Pending σ

/-- A call in progress whose source waits for a call on the pool. -/
structure Waiting (σ : Type) where
  /-- The generator it holds. -/
  member : Member σ
  /-- The millisecond it is for. -/
  ms : UInt64
  /-- The millisecond of the call that its source waits for. -/
  visit : UInt64
  /-- How its source goes on. -/
  next : Outcome (Vector UInt8 10) → Reply σ (Draws UInt80)

/-- A thread of calls. -/
inductive Thread (σ : Type) where
  /-- No call is in progress. The last one had this outcome, if there was one. -/
  | idle (last : Option (Outcome (Vector UInt8 10)))
  /-- The innermost call in progress, and the ones that wait, innermost first. -/
  | busy (call : Frame σ) (waiting : List (Waiting σ))

namespace Frame

/-- A call at its start. -/
def start (attempts : Nat) (ms : UInt64) (member : Member σ) : Frame σ :=
  ⟨member, ms, .draw (member.generator.toCounter.next attempts ms)⟩

/-- The call when its source was asked. -/
def await (call : Frame σ) (reply : Reply σ (Draws UInt80)) : Frame σ :=
  { call with pending := .answer reply }

/-- The call when its source has answered. -/
def advance (call : Frame σ) (draws : Draws UInt80) (source : σ) : Frame σ :=
  let generator := { call.member.generator with source }
  { call with member := { call.member with generator }, pending := .draw draws }

/-- The generator as the call leaves it. -/
def finish (call : Frame σ) (outcome : Outcome UInt80) : Member σ :=
  let generator := call.member.generator
  let generator := ⟨generator.toCounter.record call.ms outcome, generator.source⟩
  { call.member with generator }

end Frame

namespace Waiting

/-- The call as one in progress. -/
def frame (call : Waiting σ) : Frame σ :=
  ⟨call.member, call.ms, .answer (.viaPool call.visit call.next)⟩

/-- The call when its source has the outcome that it waited for. -/
def resume (call : Waiting σ) (outcome : Outcome (Vector UInt8 10)) : Frame σ :=
  ⟨call.member, call.ms, .answer (call.next outcome)⟩

end Waiting

namespace Thread

/-- The calls in progress, innermost first. -/
def frames : Thread σ → List (Frame σ)
  | idle _ => []
  | busy call waiting => call :: waiting.map Waiting.frame

/-- Hands the outcome of a call to the source that waits for it, or to the caller. -/
def deliver (outcome : Outcome (Vector UInt8 10)) : List (Waiting σ) → Thread σ
  | [] => idle (some outcome)
  | call :: waiting => busy (call.resume outcome) waiting

end Thread

namespace Pool

/-- Begins a call while others wait for it. -/
def call (attempts : Nat) (ms : UInt64) (pool : Pool σ) (waiting : List (Waiting σ)) :
    Pool σ × Thread σ :=
  match pool.checkOut with
  | (.value member, pool) => (pool, .busy (.start attempts ms member) waiting)
  | (.error cause, pool) => (pool, Thread.deliver (.error cause) waiting)
  | (.crash text, pool) => (pool, Thread.deliver (.crash text) waiting)
  | (.unfinished, pool) => (pool, Thread.deliver .unfinished waiting)

/-- One step of the innermost call of a thread: a request to its source, an answer or a nested call
of its source, or its end. A call that never ends takes no step. -/
def step [PoolSource σ] (attempts : Nat) (pool : Pool σ) : Thread σ → Pool σ × Thread σ
  | .idle last => (pool, .idle last)
  | .busy call waiting =>
    let serial := call.member.serial
    let source := call.member.generator.source
    match call.pending with
    | .draw (.done .unfinished) => (pool, .busy call waiting)
    | .draw (.done (.crash text)) =>
      (pool.note (.lost serial), Thread.deliver (.crash text) waiting)
    | .draw (.done outcome) =>
      (pool.checkIn (call.finish outcome), Thread.deliver (outcome.map UInt80.toBytes) waiting)
    | .draw (.read size next) =>
      let reply := (PoolSource.fill size source).map (Draws.afterRead next)
      (pool.note (.asked serial (.fill size)), .busy (call.await reply) waiting)
    | .draw (.pick bound next) =>
      let reply := (PoolSource.below bound source).map (Draws.afterPick next)
      (pool.note (.asked serial (.below bound)), .busy (call.await reply) waiting)
    | .answer (.own draws source) => (pool, .busy (call.advance draws source) waiting)
    | .answer (.viaPool visit next) =>
      pool.call attempts visit (⟨call.member, call.ms, visit, next⟩ :: waiting)

/-- The run of one thread alone until no call is in progress, within a number of steps. -/
def runThread [PoolSource σ] (attempts : Nat) :
    Nat → Pool σ → Thread σ → Outcome (Vector UInt8 10) × Pool σ
  | _, pool, .idle last => (last.getD .unfinished, pool)
  | 0, pool, .busy _ _ => (.unfinished, pool)
  | steps + 1, pool, .busy call waiting =>
    let (pool, thread) := pool.step attempts (.busy call waiting)
    runThread attempts steps pool thread

/-- The steps that are enough for one call, or for a call with one nested call for each attempt. -/
def stepLimit (attempts : Nat) : Nat := 2 * (attempts + 2) * (attempts + 2)

/-- The bytes for a millisecond, from a call that runs alone. -/
def fill [PoolSource σ] (attempts : Nat) (ms : UInt64) (pool : Pool σ) :
    Outcome (Vector UInt8 10) × Pool σ :=
  let (pool, thread) := pool.call attempts ms []
  pool.runThread attempts (stepLimit attempts) thread

end Pool

instance [PoolSource σ] : MonotonicSource (Pool σ) where
  fillMonotonic := Pool.fill

end SortableId
