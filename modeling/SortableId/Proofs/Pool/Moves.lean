import Mathlib
import SortableId.Pool.Schedule

/-!
# What the turn of a thread can do

`Pool.Moves` lists everything that a turn can do to a pool and to the calls of the thread, and
`Pool.turn_moves` says that a turn does one of these things as long as the lock of the idle list is
open, which every one of them leaves open. What a run of the pool keeps is shown from this list
alone. The history of a run is the list of the calls that ended in it, each with the generator that
served it and the one whose source made it.
-/

namespace SortableId

variable {σ : Type}

/-- A call on a pool that has ended. -/
structure EndedCall where
  /-- The generator that served it, if it got one. -/
  server : Option Nat
  /-- The millisecond it was for. -/
  ms : UInt64
  /-- Its outcome. -/
  outcome : Outcome (Vector UInt8 10)
  /-- The generator whose source made it, if it was nested. -/
  caller : Option Nat
  deriving DecidableEq

/-- The generator whose source waits for the innermost call. -/
def Thread.caller (waiting : List (Waiting σ)) : Option Nat :=
  waiting.head?.map fun call => call.member.serial

/-- A call that its generator has served. -/
def Frame.ended (call : Frame σ) (outcome : Outcome UInt80) (waiting : List (Waiting σ)) :
    EndedCall :=
  ⟨some call.member.serial, call.ms, outcome.map UInt80.toBytes, Thread.caller waiting⟩

namespace Pool

/-- A call that ends where it begins, since it gets no generator. -/
def refusal? (pool : Pool σ) (ms : UInt64) (waiting : List (Waiting σ)) : Option EndedCall :=
  match pool.checkOut.1 with
  | .value _ => none
  | .error cause => some ⟨none, ms, .error cause, Thread.caller waiting⟩
  | .crash text => some ⟨none, ms, .crash text, Thread.caller waiting⟩
  | .unfinished => some ⟨none, ms, .unfinished, Thread.caller waiting⟩

/-- The call that the turn of a thread ends, if it ends one. -/
def ends (pool : Pool σ) : Thread σ → Turn → Option EndedCall
  | .idle _, .call ms => pool.refusal? ms []
  | .idle _, .next ms => if maxTime < ms then none else pool.refusal? ms []
  | .busy call waiting, .step =>
    match call.pending with
    | .draw (.done .unfinished) => none
    | .draw (.done outcome) => some (call.ended outcome waiting)
    | .answer (.viaPool visit next) =>
      pool.refusal? visit (⟨call.member, call.ms, visit, next⟩ :: waiting)
    | _ => none
  | _, _ => none

/-- The pool after a call of the factory. -/
def grown (pool : Pool σ) : Pool σ :=
  { pool with built := pool.built + 1 }.note (.built pool.built)

/-- The pool with another idle list. -/
def withIdle (pool : Pool σ) (members : List (Member σ)) : Pool σ :=
  { pool with idle := ⟨members, false⟩ }

/-- What a turn of a thread can do, with the call that it ends, the pool and the thread afterwards.
-/
inductive Moves [PoolSource σ] (attempts : Nat) (pool : Pool σ) (thread : Thread σ) :
    Option EndedCall → Pool σ → Thread σ → Prop where
  /-- Nothing happens to the pool or to a call in progress. -/
  | stays (after : Thread σ) (same : after.frames = thread.frames) :
      Moves attempts pool thread none pool after
  /-- A call begins with the generator returned last. -/
  | reuses (ms : UInt64) (waiting : List (Waiting σ)) (member : Member σ) (rest : List (Member σ))
      (frames : thread.frames = waiting.map Waiting.frame)
      (idle : pool.idle.content = member :: rest) :
      Moves attempts pool thread none (pool.withIdle rest)
        (.busy (.start attempts ms member) waiting)
  /-- A call begins with a new generator. -/
  | builds (ms : UInt64) (waiting : List (Waiting σ)) (source : σ)
      (frames : thread.frames = waiting.map Waiting.frame) (idle : pool.idle.content = [])
      (made : pool.factory pool.built = .ok source) :
      Moves attempts pool thread none pool.grown
        (.busy (.start attempts ms ⟨pool.built, Generator.new source pool.requested⟩) waiting)
  /-- A call ends at once, since the factory crashes. -/
  | fails (ms : UInt64) (waiting : List (Waiting σ)) (text : String)
      (frames : thread.frames = waiting.map Waiting.frame) (idle : pool.idle.content = [])
      (made : pool.factory pool.built = .error text) :
      Moves attempts pool thread (some ⟨none, ms, .crash text, Thread.caller waiting⟩) pool.grown
        (Thread.deliver (.crash text) waiting)
  /-- A source is asked for bytes. -/
  | reads (call : Frame σ) (waiting : List (Waiting σ)) (size : Nat)
      (next : Vector UInt8 size → Draws UInt80) (busy : thread = .busy call waiting)
      (pending : call.pending = .draw (.read size next)) :
      Moves attempts pool thread none (pool.note (.asked call.member.serial (.fill size)))
        (.busy (call.await <| (PoolSource.fill size call.member.generator.source).map
          (Draws.afterRead next)) waiting)
  /-- A source is asked for a bounded number. -/
  | picks (call : Frame σ) (waiting : List (Waiting σ)) (bound : UInt64)
      (next : Option UInt64 → Draws UInt80) (busy : thread = .busy call waiting)
      (pending : call.pending = .draw (.pick bound next)) :
      Moves attempts pool thread none (pool.note (.asked call.member.serial (.below bound)))
        (.busy (call.await <| (PoolSource.below bound call.member.generator.source).map
          (Draws.afterPick next)) waiting)
  /-- A source has answered. -/
  | hears (call : Frame σ) (waiting : List (Waiting σ)) (draws : Draws UInt80) (source : σ)
      (busy : thread = .busy call waiting) (pending : call.pending = .answer (.own draws source)) :
      Moves attempts pool thread none pool (.busy (call.advance draws source) waiting)
  /-- A call returns, and its generator becomes idle. -/
  | returns (call : Frame σ) (waiting : List (Waiting σ)) (outcome : Outcome UInt80)
      (busy : thread = .busy call waiting) (pending : call.pending = .draw (.done outcome))
      (returned : outcome.isReturn = true)
      (room : ∀ limit, pool.maxIdle = some limit → pool.idle.content.length < limit) :
      Moves attempts pool thread (some (call.ended outcome waiting))
        ((pool.withIdle (call.finish outcome :: pool.idle.content)).note
          (.returned call.member.serial))
        (Thread.deliver (outcome.map UInt80.toBytes) waiting)
  /-- A call returns, and its generator is one too many to stay idle. -/
  | drops (call : Frame σ) (waiting : List (Waiting σ)) (outcome : Outcome UInt80) (limit : Nat)
      (busy : thread = .busy call waiting) (pending : call.pending = .draw (.done outcome))
      (returned : outcome.isReturn = true) (limited : pool.maxIdle = some limit)
      (full : limit ≤ pool.idle.content.length) :
      Moves attempts pool thread (some (call.ended outcome waiting))
        (pool.note (.dropped call.member.serial))
        (Thread.deliver (outcome.map UInt80.toBytes) waiting)
  /-- A call crashes, and its generator is lost. -/
  | loses (call : Frame σ) (waiting : List (Waiting σ)) (text : String)
      (busy : thread = .busy call waiting)
      (pending : call.pending = .draw (.done (.crash text))) :
      Moves attempts pool thread (some (call.ended (.crash text) waiting))
        (pool.note (.lost call.member.serial)) (Thread.deliver (.crash text) waiting)

/-- A move that ends a call hands the outcome on. Either the call got no generator, or it was the
innermost one of its thread and had no draws left. -/
theorem Moves.ended_cases [PoolSource σ] {attempts : Nat} {pool after : Pool σ}
    {thread next : Thread σ} {ended : EndedCall}
    (moves : Moves attempts pool thread (some ended) after next) :
    ∃ waiting, next = Thread.deliver ended.outcome waiting ∧
      ended.caller = Thread.caller waiting ∧
      (thread.frames = waiting.map Waiting.frame ∧ ended.server = none ∨
        ∃ call outcome, thread = .busy call waiting ∧ call.pending = .draw (.done outcome) ∧
          ended = call.ended outcome waiting) := by
  cases moves with
  | fails ms waiting text frames idle made => exact ⟨waiting, rfl, rfl, .inl ⟨frames, rfl⟩⟩
  | returns call waiting outcome busy pending returned room =>
    exact ⟨waiting, rfl, rfl, .inr ⟨call, outcome, busy, pending, rfl⟩⟩
  | drops call waiting outcome limit busy pending returned limited full =>
    exact ⟨waiting, rfl, rfl, .inr ⟨call, outcome, busy, pending, rfl⟩⟩
  | loses call waiting text busy pending =>
    exact ⟨waiting, rfl, rfl, .inr ⟨call, .crash text, busy, pending, rfl⟩⟩

/-- A check-out from an open lock takes the generator returned last, or calls the factory. -/
theorem checkOut_of_open (pool : Pool σ) (opened : pool.idle.poisoned = false) :
    pool.checkOut =
      match pool.idle.content with
      | member :: rest => (.value member, pool.withIdle rest)
      | [] =>
        match pool.factory pool.built with
        | .ok source => (.value ⟨pool.built, Generator.new source pool.requested⟩, pool.grown)
        | .error text => (.crash text, pool.grown) := by
  rw [checkOut, Guarded.enter_of_open _ _ opened]
  obtain ⟨factory, requested, maxIdle, ⟨content, poisoned⟩, built, events⟩ := pool
  cases opened
  cases content with
  | nil =>
    cases made : factory built <;>
      simp only [takeIdle, build, note, grown, Outcome.isCrash, made]
  | cons member rest => rfl

/-- A check-in under an open lock keeps the generator unless enough are idle. -/
theorem checkIn_of_open (member : Member σ) (pool : Pool σ)
    (opened : pool.idle.poisoned = false) :
    pool.checkIn member =
      if pool.maxIdle.any fun limit => decide (limit ≤ pool.idle.content.length) then
        pool.note (.dropped member.serial)
      else (pool.withIdle (member :: pool.idle.content)).note (.returned member.serial) := by
  rw [checkIn, Guarded.enter_of_open _ _ opened]
  obtain ⟨factory, requested, maxIdle, ⟨content, poisoned⟩, built, events⟩ := pool
  cases opened
  by_cases full : maxIdle.any fun limit => decide (limit ≤ content.length)
  · simp only [putIdle, full, ↓reduceIte, Outcome.isCrash]
  · simp only [putIdle, full, ↓reduceIte, Outcome.isCrash, Bool.false_eq_true, withIdle]

/-- Under an open lock the idle generators can be counted. -/
theorem idleCount_of_open (pool : Pool σ) (opened : pool.idle.poisoned = false) :
    pool.idleCount = .value pool.idle.content.length := by
  rw [idleCount, Guarded.enter_of_open _ _ opened]

variable [PoolSource σ]

/-- A call takes a generator and begins, or ends because the factory crashes. -/
theorem call_moves (attempts : Nat) (ms : UInt64) (pool : Pool σ) (thread : Thread σ)
    (waiting : List (Waiting σ)) (frames : thread.frames = waiting.map Waiting.frame)
    (opened : pool.idle.poisoned = false) :
    Moves attempts pool thread (pool.refusal? ms waiting) (pool.call attempts ms waiting).1
      (pool.call attempts ms waiting).2 := by
  rw [refusal?, call, checkOut_of_open pool opened]
  cases idle : pool.idle.content with
  | cons member rest => exact .reuses ms waiting member rest frames idle
  | nil =>
    cases made : pool.factory pool.built with
    | ok source => exact .builds ms waiting source frames idle made
    | error text => exact .fails ms waiting text frames idle made

/-- A call that returns checks its generator in. -/
theorem checkIn_moves (attempts : Nat) (pool : Pool σ) (call : Frame σ)
    (waiting : List (Waiting σ)) (outcome : Outcome UInt80)
    (pending : call.pending = .draw (.done outcome)) (returned : outcome.isReturn = true)
    (opened : pool.idle.poisoned = false) :
    Moves attempts pool (.busy call waiting) (some (call.ended outcome waiting))
      (pool.checkIn (call.finish outcome))
      (Thread.deliver (outcome.map UInt80.toBytes) waiting) := by
  rw [checkIn_of_open _ _ opened]
  split
  · rename_i full
    obtain ⟨limit, limited, enough⟩ := (Option.any_eq_true _ _).mp full
    exact .drops call waiting outcome limit rfl pending returned limited (of_decide_eq_true enough)
  · rename_i room
    refine .returns call waiting outcome rfl pending returned fun limit limited => ?_
    rw [limited, Option.any_some, decide_eq_true_iff] at room
    exact Nat.lt_of_not_le room

/-- A step of a thread is one of the moves. -/
theorem step_moves (attempts : Nat) (pool : Pool σ) (thread : Thread σ)
    (opened : pool.idle.poisoned = false) :
    Moves attempts pool thread (pool.ends thread .step) (pool.step attempts thread).1
      (pool.step attempts thread).2 := by
  cases thread with
  | idle last => exact .stays (.idle last) rfl
  | busy call waiting =>
    rw [ends, step]
    cases pending : call.pending with
    | draw draws =>
      cases draws with
      | read size next => exact .reads call waiting size next rfl pending
      | pick bound next => exact .picks call waiting bound next rfl pending
      | done outcome =>
        cases outcome with
        | value value => exact checkIn_moves attempts pool call waiting _ pending rfl opened
        | error cause => exact checkIn_moves attempts pool call waiting _ pending rfl opened
        | crash text => exact .loses call waiting text rfl pending
        | unfinished => exact .stays (.busy call waiting) rfl
    | answer reply =>
      cases reply with
      | own draws source => exact .hears call waiting draws source rfl pending
      | viaPool visit next =>
        refine call_moves attempts visit pool _ (⟨call.member, call.ms, visit, next⟩ :: waiting) ?_
          opened
        rw [Thread.frames, List.map_cons, Waiting.frame, ← pending]

/-- Every turn of a thread is one of the moves. -/
theorem turn_moves (attempts : Nat) (pool : Pool σ) (thread : Thread σ) (turn : Turn)
    (opened : pool.idle.poisoned = false) :
    Moves attempts pool thread (pool.ends thread turn) (pool.turn attempts thread turn).1
      (pool.turn attempts thread turn).2 := by
  cases turn with
  | step => exact step_moves attempts pool thread opened
  | call ms =>
    cases thread with
    | busy call waiting => exact .stays _ rfl
    | idle last => exact call_moves attempts ms pool (.idle last) [] rfl opened
  | next ms =>
    cases thread with
    | busy call waiting => exact .stays _ rfl
    | idle last =>
      rw [ends, turn, Ulid.withTime]
      by_cases late : maxTime < ms
      · rw [if_pos late, if_pos late]
        exact .stays _ rfl
      · rw [if_neg late, if_neg late]
        exact call_moves attempts ms pool (.idle last) [] rfl opened

end Pool

end SortableId
