import Mathlib
import SortableId.Proofs.Fill
import SortableId.Proofs.Pool.Replay

/-!
# Where the errors of a pool come from

An error that a call on a pool reports is that a value has too many bits, that a time is too late,
or one that a source answered with. Every other error is foreign: a call ends with it exactly if one
of the reads that it made of its own source was answered with it (`outcome_eq_error_iff`), and as
long as no source answers with it of its own, no call does (`run_avoids`). A source that waits for a
call on the pool may pass its error on.
-/

namespace SortableId

variable {σ α β : Type}

/-- An error that pools and generators do not report of their own. -/
structure Error.Foreign (cause : Error) : Prop where
  /-- It is not that a value has too many bits. -/
  counter : cause ≠ .monotonicOverflow
  /-- It is not that a time is too late. -/
  clock : ∀ ms, cause ≠ .bigTime ms

/-- A call that comes after others passes on an error that its source answered one of its reads
with. The source is the one that the factory made for the generator that served the call, and the
reads are those of the next fill in the sequential run of that generator. -/
def EndedCall.PassesOn [PoolSource σ] (attempts : Nat) (factory : Nat → Except String σ)
    (requested : UInt64) (earlier : List EndedCall) (cause : Error) (call : EndedCall) : Prop :=
  ∃ serial source, call.server = some serial ∧ factory serial = .ok source ∧
    ∀ later,
      ∃ asked ∈ (replay attempts requested earlier serial source later).2.reads attempts call.ms,
        (ByteSource.fill asked.1 asked.2).1 = .error cause

/-- A call ends with a foreign error exactly if its source answered one of its reads with it. -/
theorem EndedCall.Sequential.outcome_eq_error_iff [PoolSource σ] {attempts : Nat}
    {factory : Nat → Except String σ} {requested : UInt64} {earlier : List EndedCall}
    {call : EndedCall} (sequential : call.Sequential attempts factory requested earlier)
    {cause : Error} (foreign : cause.Foreign) :
    call.outcome = .error cause ↔ call.PassesOn attempts factory requested earlier cause := by
  cases server : call.server with
  | none =>
    have crashed := sequential.refused server
    constructor
    · intro same
      rw [same] at crashed
      cases crashed
    · rintro ⟨serial, source, served, -⟩
      rw [server] at served
      cases served
  | some serial =>
    obtain ⟨source, made, filled⟩ := sequential.served serial server
    have asked (later : Stream' (Outcome (Vector UInt8 10))) :=
      Generator.fill_eq_error_iff attempts call.ms
        (replay attempts requested earlier serial source later).2 foreign.counter
    constructor
    · intro same
      refine ⟨serial, source, server, made, fun later => ?_⟩
      rw [← asked later, filled later, same]
    · rintro ⟨other, again, served, remade, answered⟩
      obtain rfl : serial = other := Option.some.inj (server.symm.trans served)
      obtain rfl : source = again := Except.ok.inj (made.symm.trans remade)
      rw [← filled (Stream'.const .unfinished), asked]
      exact answered (Stream'.const .unfinished)

/-- The answer of a source meets a condition, provided that no call on the pool that it waits for
ends with the error. -/
def Reply.Barring (cause : Error) (condition : α → Prop) : Reply σ α → Prop
  | own answer _ => condition answer
  | viaPool _ next => ∀ outcome, outcome ≠ .error cause → (next outcome).Barring cause condition

/-- A call in progress that does not end with an error, unless a call on the pool does that its
source waits for. -/
def Frame.Avoids (cause : Error) (call : Frame σ) : Prop :=
  match call.pending with
  | .draw draws => draws.Avoids cause
  | .answer reply => reply.Barring cause (Draws.Avoids cause)

/-- A thread whose calls do not end with an error, and have not. -/
def Thread.Avoids (cause : Error) : Thread σ → Prop
  | idle last => last ≠ some (.error cause)
  | busy call waiting => call.Avoids cause ∧ ∀ other ∈ waiting, other.frame.Avoids cause

/-- A changed answer meets a condition that the answer meets after the change. -/
theorem Reply.Barring.map {cause : Error} {first : α → Prop} {condition : β → Prop}
    {reply : Reply σ α} {change : α → β} (barring : reply.Barring cause first)
    (changed : ∀ answer, first answer → condition (change answer)) :
    (reply.map change).Barring cause condition := by
  induction reply with
  | own answer source => exact changed answer barring
  | viaPool ms next ih => exact fun outcome other => ih outcome (barring outcome other)

/-- Any answer meets a condition that all answers meet. -/
theorem Reply.barring_of_all (cause : Error) {condition : α → Prop} (reply : Reply σ α)
    (all : ∀ answer, condition answer) : reply.Barring cause condition := by
  induction reply with
  | own answer source => exact all answer
  | viaPool ms next ih => exact fun outcome _ => ih outcome

namespace Draws

variable {cause : Error}

/-- A read that does not end with an error leads to none. -/
theorem afterRead_avoids {size : Nat} {next : Vector UInt8 size → Draws α}
    (onward : ∀ bytes, (next bytes).Avoids cause) (outcome : Outcome (Vector UInt8 size))
    (other : outcome ≠ .error cause) : (afterRead next outcome).Avoids cause := by
  cases outcome with
  | value bytes => exact onward bytes
  | error found =>
    rintro ⟨⟩
    exact other rfl
  | crash text => exact nofun
  | unfinished => exact nofun

/-- A bounded request reports no error. -/
theorem afterPick_avoids {next : Option UInt64 → Draws α}
    (onward : ∀ answer, (next answer).Avoids cause) (answer : Except String (Option UInt64)) :
    (afterPick next answer).Avoids cause := by
  cases answer with
  | ok answer => exact onward answer
  | error text => exact nofun

end Draws

/-- Delivering another outcome keeps a thread from an error. -/
theorem Thread.deliver_avoids {cause : Error} (outcome : Outcome (Vector UInt8 10))
    (waiting : List (Waiting σ)) (other : outcome ≠ .error cause)
    (avoid : ∀ call ∈ waiting, call.frame.Avoids cause) :
    (deliver outcome waiting).Avoids cause := by
  cases waiting with
  | nil =>
    rintro ⟨⟩
    exact other rfl
  | cons call waiting =>
    obtain ⟨first, rest⟩ := List.forall_mem_cons.mp avoid
    exact ⟨first outcome other, rest⟩

namespace Pool

/-- The read that the turn of a thread asks a source for. -/
def asks : Thread σ → Turn → Option (Nat × σ)
  | .busy call _, .step =>
    match call.pending with
    | .draw (.read size _) => some (size, call.member.generator.source)
    | _ => none
  | _, _ => none

/-- A thread that avoids an error still does after a turn, and the call that the turn ends does not
end with it. -/
def Keeps (cause : Error) (after : Thread σ) (ended : Option EndedCall) : Prop :=
  after.Avoids cause ∧ ∀ call, ended = some call → call.outcome ≠ .error cause

/-- A turn that ends no call keeps from an error a thread that avoids it. -/
theorem Keeps.of_none {cause : Error} {after : Thread σ} (avoids : after.Avoids cause) :
    Keeps cause after none :=
  ⟨avoids, fun call ended => by cases ended⟩

/-- A call that begins under an open lock reports no foreign error. -/
theorem call_avoids {cause : Error} (foreign : cause.Foreign) (attempts : Nat) (ms : UInt64)
    (pool : Pool σ) (waiting : List (Waiting σ)) (opened : pool.idle.poisoned = false)
    (avoid : ∀ call ∈ waiting, call.frame.Avoids cause) :
    Keeps cause (pool.call attempts ms waiting).2 (pool.refusal? ms waiting) := by
  have begins (member : Member σ) : (Frame.start attempts ms member).Avoids cause :=
    Counter.next_avoids foreign.counter attempts ms member.generator.toCounter
  rw [refusal?, call, checkOut_of_open pool opened]
  cases pool.idle.content with
  | cons member rest => exact .of_none ⟨begins member, avoid⟩
  | nil =>
    cases pool.factory pool.built with
    | ok source => exact .of_none ⟨begins _, avoid⟩
    | error text =>
      have crashed : (Outcome.crash text : Outcome (Vector UInt8 10)) ≠ .error cause := by
        rintro ⟨⟩
      refine ⟨Thread.deliver_avoids _ waiting crashed avoid, ?_⟩
      rintro call ⟨⟩
      exact crashed

/-- A call that ends hands its outcome on, which is not an error that its draws avoid. -/
theorem done_avoids {cause : Error} (call : Frame σ) (waiting : List (Waiting σ))
    (outcome : Outcome UInt80) (other : outcome ≠ .error cause)
    (avoid : ∀ call ∈ waiting, call.frame.Avoids cause) :
    Keeps cause (Thread.deliver (outcome.map UInt80.toBytes) waiting)
      (some (call.ended outcome waiting)) := by
  have mapped : outcome.map UInt80.toBytes ≠ .error cause := by
    cases outcome with
    | error found =>
      rintro ⟨⟩
      exact other rfl
    | value value => exact nofun
    | crash text => exact nofun
    | unfinished => exact nofun
  refine ⟨Thread.deliver_avoids _ waiting mapped avoid, ?_⟩
  rintro ended ⟨⟩
  exact mapped

variable [PoolSource σ]

/-- A step reports no foreign error, provided that the source that it asks does not. -/
theorem step_avoids {cause : Error} (foreign : cause.Foreign) (attempts : Nat) (pool : Pool σ)
    (thread : Thread σ) (opened : pool.idle.poisoned = false) (avoids : thread.Avoids cause)
    (honest : ∀ size source, asks thread .step = some (size, source) →
      (PoolSource.fill size source).Barring cause (· ≠ .error cause)) :
    Keeps cause (pool.step attempts thread).2 (pool.ends thread .step) := by
  cases thread with
  | idle last => exact .of_none avoids
  | busy call waiting =>
    obtain ⟨own, others⟩ := avoids
    rw [Frame.Avoids] at own
    rw [ends, step]
    cases pending : call.pending with
    | draw draws =>
      rw [pending] at own
      cases draws with
      | done outcome =>
        cases outcome with
        | value value => exact done_avoids call waiting _ own others
        | error found => exact done_avoids call waiting _ own others
        | crash text => exact done_avoids call waiting (.crash text) own others
        | unfinished =>
          refine .of_none ⟨?_, others⟩
          rw [Frame.Avoids, pending]
          exact own
      | read size next =>
        have answered := honest size call.member.generator.source (by rw [asks, pending])
        exact .of_none ⟨answered.map (Draws.afterRead_avoids own), others⟩
      | pick bound next =>
        have answered : (PoolSource.below bound call.member.generator.source).Barring cause
            fun _ => True := Reply.barring_of_all cause _ fun _ => trivial
        exact .of_none
          ⟨answered.map fun answer _ => Draws.afterPick_avoids own answer, others⟩
    | answer reply =>
      rw [pending] at own
      cases reply with
      | own draws source => exact .of_none ⟨own, others⟩
      | viaPool visit next =>
        exact call_avoids foreign attempts visit pool
          (⟨call.member, call.ms, visit, next⟩ :: waiting) opened
          (List.forall_mem_cons.mpr ⟨own, others⟩)

/-- A turn reports no foreign error, provided that the source that it asks does not. -/
theorem turn_avoids {cause : Error} (foreign : cause.Foreign) (attempts : Nat) (pool : Pool σ)
    (thread : Thread σ) (turn : Turn) (opened : pool.idle.poisoned = false)
    (avoids : thread.Avoids cause)
    (honest : ∀ size source, asks thread turn = some (size, source) →
      (PoolSource.fill size source).Barring cause (· ≠ .error cause)) :
    Keeps cause (pool.turn attempts thread turn).2 (pool.ends thread turn) := by
  have begins (ms : UInt64) : Keeps cause (pool.call attempts ms []).2 (pool.refusal? ms []) :=
    call_avoids foreign attempts ms pool [] opened (List.forall_mem_nil _)
  cases turn with
  | step => exact step_avoids foreign attempts pool thread opened avoids honest
  | call ms =>
    cases thread with
    | busy call waiting => exact .of_none avoids
    | idle last => exact begins ms
  | next ms =>
    cases thread with
    | busy call waiting => exact .of_none avoids
    | idle last =>
      rw [ends, turn, Ulid.withTime]
      by_cases late : maxTime < ms
      · rw [if_pos late, if_pos late]
        refine .of_none ?_
        rintro ⟨⟩
        exact foreign.clock ms rfl
      · rw [if_neg late, if_neg late]
        exact begins ms

end Pool

namespace PoolSystem

/-- The read that an action asks a source for. -/
def asks (system : PoolSystem σ) (action : PoolAction) : Option (Nat × σ) :=
  system.threads[action.thread]?.bind fun thread => Pool.asks thread action.turn

/-- Threads whose calls do not end with an error, and have not. -/
def Avoids (cause : Error) (system : PoolSystem σ) : Prop :=
  ∀ thread ∈ system.threads, thread.Avoids cause

/-- At the start no call has ended. -/
theorem start_avoids (cause : Error) (factory : Nat → Except String σ) (requested : UInt64)
    (maxIdle : Option Nat) (threads : Nat) :
    (start factory requested maxIdle threads).Avoids cause := by
  intro thread mem
  rw [List.eq_of_mem_replicate mem]
  exact nofun

variable [PoolSource σ]

/-- The reads that sources are asked for during a schedule. -/
def reads (attempts : Nat) : PoolSystem σ → List PoolAction → List (Nat × σ)
  | _, [] => []
  | system, action :: schedule =>
    (system.asks action).toList ++ reads attempts (system.act attempts action) schedule

/-- An action does not poison the lock of the idle list. -/
theorem act_opened (attempts : Nat) (system : PoolSystem σ) (action : PoolAction)
    (opened : system.pool.idle.poisoned = false) :
    (system.act attempts action).pool.idle.poisoned = false := by
  obtain ⟨before, thread, behind, after, split, splitAfter, moves⟩ :=
    act_moves attempts system action opened
  exact moves.make.2.2.2 opened

/-- An action reports no foreign error, provided that the source that it asks does not. -/
theorem act_avoids {cause : Error} (foreign : cause.Foreign) (attempts : Nat)
    (system : PoolSystem σ) (action : PoolAction) (opened : system.pool.idle.poisoned = false)
    (avoids : system.Avoids cause)
    (honest : ∀ read ∈ system.asks action,
      (PoolSource.fill read.1 read.2).Barring cause (· ≠ .error cause)) :
    (system.act attempts action).Avoids cause ∧
      ∀ call, system.ends action = some call → call.outcome ≠ .error cause := by
  rw [act, ends]
  rw [asks] at honest
  cases found : system.threads[action.thread]? with
  | none => exact ⟨avoids, fun call ended => by cases ended⟩
  | some thread =>
    rw [found] at honest
    have among : thread ∈ system.threads := List.mem_of_getElem? found
    obtain ⟨kept, outcome⟩ := Pool.turn_avoids foreign attempts system.pool thread action.turn
      opened (avoids thread among) fun size source asked => honest (size, source) asked
    refine ⟨fun other mem => ?_, outcome⟩
    rcases List.mem_or_eq_of_mem_set mem with old | rfl
    · exact avoids other old
    · exact kept

/-- A run reports no foreign error, provided that no source that it asks does. -/
theorem run_avoids {cause : Error} (foreign : cause.Foreign) (attempts : Nat)
    (schedule : List PoolAction) (system : PoolSystem σ)
    (opened : system.pool.idle.poisoned = false) (avoids : system.Avoids cause)
    (honest : ∀ read ∈ system.reads attempts schedule,
      (PoolSource.fill read.1 read.2).Barring cause (· ≠ .error cause)) :
    (system.run attempts schedule).Avoids cause ∧
      ∀ call ∈ system.history attempts schedule, call.outcome ≠ .error cause := by
  induction schedule generalizing system with
  | nil => exact ⟨avoids, List.forall_mem_nil _⟩
  | cons action schedule ih =>
    rw [reads, List.forall_mem_append] at honest
    obtain ⟨first, later⟩ := honest
    obtain ⟨kept, outcome⟩ := act_avoids foreign attempts system action opened avoids
      fun read asked => first read (Option.mem_toList.mpr asked)
    obtain ⟨final, rest⟩ := ih (system.act attempts action)
      (act_opened attempts system action opened) kept later
    refine ⟨final, ?_⟩
    rw [history, List.forall_mem_append]
    exact ⟨fun call mem => outcome call (Option.mem_toList.mp mem), rest⟩

end PoolSystem

end SortableId
