import Mathlib
import SortableId.Shared
import SortableId.Proofs.Pool.Errors

/-!
# Crashes of a pool's calls do not spread

No code of a caller runs while the idle list is locked, so no crash poisons its lock, and a poisoned
lock that a call reports is one of its source. A call that crashes takes its generator out of use,
if it got one, and touches nothing else: what a move can do to generators that are not its own is
`Moves.spares`, and what a crash does is `Moves.crashes`.
-/

namespace SortableId

variable {σ : Type}

/-- The generator that an event loses to a crash. -/
def PoolEvent.lost? : PoolEvent → Option Nat
  | lost serial => some serial
  | _ => none

/-- The generator that a call has lost by a crash. -/
def EndedCall.lost? (call : EndedCall) : Option Nat :=
  if call.outcome.isCrash then call.server else none

namespace Thread

/-- The generators that the calls of a thread hold, as they are. -/
def members (thread : Thread σ) : List (Member σ) := thread.frames.map Frame.member

/-- The generator of the innermost call. -/
def innermost : Thread σ → Option Nat
  | idle _ => none
  | busy call _ => some call.member.serial

/-- A busy thread holds the generator of the innermost call and those of the calls that wait. -/
@[simp]
theorem members_busy (call : Frame σ) (waiting : List (Waiting σ)) :
    (busy call waiting).members = call.member :: waiting.map Waiting.member := by
  rw [members, frames, List.map_cons, List.map_map]
  rfl

/-- A thread whose calls all wait holds their generators. -/
theorem members_of_frames {thread : Thread σ} {waiting : List (Waiting σ)}
    (frames : thread.frames = waiting.map Waiting.frame) :
    thread.members = waiting.map Waiting.member := by
  rw [members, frames, List.map_map]
  rfl

/-- The call that returned holds nothing any more. -/
@[simp]
theorem members_deliver (outcome : Outcome (Vector UInt8 10)) (waiting : List (Waiting σ)) :
    (deliver outcome waiting).members = waiting.map Waiting.member := by
  cases waiting with
  | nil => rfl
  | cons call waiting => exact members_busy _ waiting

/-- A generator that is not the innermost call's is idle or held by a call that waits. -/
theorem mem_of_other {resting : List (Member σ)} {call : Frame σ} {waiting : List (Waiting σ)}
    {member : Member σ} (among : member ∈ resting ++ (busy call waiting).members)
    (other : (busy call waiting).innermost ≠ some member.serial) :
    member ∈ resting ++ waiting.map Waiting.member := by
  rw [members_busy, List.mem_append, List.mem_cons] at among
  rw [List.mem_append]
  rcases among with rests | rfl | waits
  · exact .inl rests
  · exact absurd rfl other
  · exact .inr waits

end Thread

namespace Pool

/-- The generators that were lost to crashes, latest first. -/
def lostSerials (pool : Pool σ) : List Nat := pool.events.filterMap PoolEvent.lost?

variable [PoolSource σ] {attempts : Nat} {pool after : Pool σ} {thread next : Thread σ}
  {ended : Option EndedCall}

/-- A move changes no generator but the one of the innermost call. -/
theorem Moves.spares (moves : Moves attempts pool thread ended after next) (member : Member σ)
    (among : member ∈ pool.idle.content ++ thread.members)
    (other : thread.innermost ≠ some member.serial) :
    member ∈ after.idle.content ++ next.members := by
  cases moves with
  | stays _ same => rwa [Thread.members, same, ← Thread.members]
  | reuses ms waiting taken rest frames idle =>
    rw [idle, Thread.members_of_frames frames] at among
    simp only [Thread.members_busy, Frame.start, withIdle, List.mem_append, List.mem_cons]
      at among ⊢
    tauto
  | builds ms waiting source frames idle made =>
    rw [Thread.members_of_frames frames] at among
    simp only [Thread.members_busy, grown, note, List.mem_append, List.mem_cons] at among ⊢
    tauto
  | fails ms waiting text frames idle made =>
    rwa [Thread.members_of_frames frames, ← Thread.members_deliver] at among
  | reads call waiting size draws busy pending =>
    subst busy
    rw [Thread.members_busy] at among ⊢
    exact among
  | picks call waiting bound draws busy pending =>
    subst busy
    rw [Thread.members_busy] at among ⊢
    exact among
  | hears call waiting draws source busy pending =>
    subst busy
    have kept := Thread.mem_of_other among other
    rw [List.mem_append] at kept
    rw [Thread.members_busy, List.mem_append]
    exact kept.imp id (List.mem_cons_of_mem _)
  | returns call waiting outcome busy pending returned room =>
    subst busy
    have kept := Thread.mem_of_other among other
    rw [List.mem_append] at kept
    rw [Thread.members_deliver, List.mem_append]
    exact kept.imp (List.mem_cons_of_mem _) id
  | drops call waiting outcome limit busy pending returned limited full =>
    subst busy
    rw [Thread.members_deliver]
    exact Thread.mem_of_other among other
  | loses call waiting text busy pending =>
    subst busy
    rw [Thread.members_deliver]
    exact Thread.mem_of_other among other

/-- A call that returns has not crashed. -/
theorem not_isCrash_of_isReturn {α : Type} {outcome : Outcome α}
    (returned : outcome.isReturn = true) : outcome.isCrash = false := by
  cases outcome with
  | crash text => exact nomatch returned
  | value value => rfl
  | error cause => rfl
  | unfinished => rfl

/-- A move that ends no call leaves the idle list alone or begins a call with the generator in
front of it. -/
theorem Moves.idle_cases (moves : Moves attempts pool thread none after next) :
    after.idle = pool.idle ∨
      ∃ member, pool.idle.content = member :: after.idle.content ∧
        next.held = member.serial :: thread.held := by
  cases moves with
  | stays => exact .inl rfl
  | reuses ms waiting member rest frames idle =>
    refine .inr ⟨member, idle, ?_⟩
    rw [Thread.held_busy, Thread.held_of_frames frames, Frame.start]
  | builds => exact .inl rfl
  | reads => exact .inl rfl
  | picks => exact .inl rfl
  | hears => exact .inl rfl

/-- A crash leaves the idle list alone, and of the generators that are held it takes the one that
served the call, if there is one, and changes no other. -/
theorem Moves.crashes {call : EndedCall} (moves : Moves attempts pool thread (some call) after next)
    (crashed : call.outcome.isCrash = true) :
    after.idle = pool.idle ∧ thread.held = call.server.toList ++ next.held ∧
      ∀ member ∈ thread.members, call.server ≠ some member.serial → member ∈ next.members := by
  cases moves with
  | fails ms waiting text frames idle made =>
    refine ⟨rfl, ?_, fun member among _ => ?_⟩
    · rw [Thread.held_of_frames frames, Thread.held_deliver, Option.toList_none, List.nil_append]
    · rwa [Thread.members_deliver, ← Thread.members_of_frames frames]
  | returns call waiting outcome busy pending returned room =>
    rw [Frame.ended, Outcome.isCrash_map, not_isCrash_of_isReturn returned] at crashed
    exact absurd crashed Bool.false_ne_true
  | drops call waiting outcome limit busy pending returned limited full =>
    rw [Frame.ended, Outcome.isCrash_map, not_isCrash_of_isReturn returned] at crashed
    exact absurd crashed Bool.false_ne_true
  | loses call waiting text busy pending =>
    subst busy
    refine ⟨rfl, ?_, fun member among other => ?_⟩
    · rw [Thread.held_busy, Thread.held_deliver, Frame.ended, Option.toList_some,
        List.singleton_append]
    · have among : member ∈ [] ++ (Thread.busy call waiting).members := among
      rw [Thread.members_deliver]
      exact Thread.mem_of_other among other

/-- Only a crash loses a generator, and it loses the one that served the call. -/
theorem Moves.lost (moves : Moves attempts pool thread ended after next) :
    after.lostSerials = (ended.bind EndedCall.lost?).toList ++ pool.lostSerials := by
  cases moves with
  | stays => rfl
  | reuses => rfl
  | builds => rfl
  | fails => rfl
  | reads => rfl
  | picks => rfl
  | hears => rfl
  | returns call waiting outcome busy pending returned room =>
    rw [Option.bind_some, EndedCall.lost?, Frame.ended, Outcome.isCrash_map,
      not_isCrash_of_isReturn returned]
    rfl
  | drops call waiting outcome limit busy pending returned limited full =>
    rw [Option.bind_some, EndedCall.lost?, Frame.ended, Outcome.isCrash_map,
      not_isCrash_of_isReturn returned]
    rfl
  | loses => rfl

end Pool

namespace PoolSystem

/-- The generators in use, idle or held by a call, as they are. -/
def members (system : PoolSystem σ) : List (Member σ) :=
  system.pool.idle.content ++ system.frames.map Frame.member

/-- What an action of a call leaves as it was. -/
structure Contained (system after : PoolSystem σ) (actor : Thread σ)
    (ended : Option EndedCall) : Prop where
  /-- Every generator stays as it is, but for the one of the innermost call of the acting thread. -/
  others : ∀ member ∈ system.members, actor.innermost ≠ some member.serial →
    member ∈ after.members
  /-- A call that does not end leaves the idle list alone, except that it begins with the generator
  in front of it. -/
  begun : ended = none → after.pool.idle = system.pool.idle ∨
    ∃ member, system.pool.idle.content = member :: after.pool.idle.content ∧
      after.held.Perm (member.serial :: system.held)
  /-- A call that crashes leaves the idle list alone. Of all generators in use it takes its own out
  of use, if it got one, and changes no other. -/
  crashed : ∀ call, ended = some call → call.outcome.isCrash = true →
    after.pool.idle = system.pool.idle ∧
    system.held.Perm (call.server.toList ++ after.held) ∧
    after.pool.goneSerials = call.server.toList ++ system.pool.goneSerials ∧
    ∀ member ∈ system.members, call.server ≠ some member.serial → member ∈ after.members

/-- A generator in use is idle or held by the acting thread, or the other threads hold it. -/
theorem mem_members_of_split {system : PoolSystem σ} {before behind : List (Frame σ)}
    {thread : Thread σ} (split : system.frames = before ++ thread.frames ++ behind)
    (member : Member σ) :
    member ∈ system.members ↔ member ∈ system.pool.idle.content ++ thread.members ∨
      member ∈ (before ++ behind).map Frame.member := by
  simp only [members, split, Thread.members, List.map_append, List.mem_append]
  tauto

/-- If one thread holds some generators more than another that takes its place, so does the
system. -/
theorem held_perm_of_split {system other : PoolSystem σ} {before behind : List (Frame σ)}
    {thread after : Thread σ} {more : List Nat}
    (split : system.frames = before ++ thread.frames ++ behind)
    (splitAfter : other.frames = before ++ after.frames ++ behind)
    (holds : thread.held = more ++ after.held) : system.held.Perm (more ++ other.held) := by
  rw [List.perm_iff_count]
  intro serial
  have count := congrArg (List.count serial) holds
  simp only [Thread.held, held, split, splitAfter, List.map_append, List.count_append] at count ⊢
  omega

variable [PoolSource σ]

/-- An action of a system with an open lock is contained. -/
theorem act_contained (attempts : Nat) (system : PoolSystem σ) (action : PoolAction)
    (opened : system.pool.idle.poisoned = false)
    (handsBack : Pool.HandsBack system.pool (system.act attempts action).pool
      (system.ends action)) :
    Contained system (system.act attempts action) (system.actor action) (system.ends action) := by
  obtain ⟨before, behind, after, split, splitAfter, moves⟩ :=
    act_splits attempts system action opened
  refine ⟨fun member among other => ?_, fun none => ?_, fun call ended crashed => ?_⟩
  · rw [mem_members_of_split split] at among
    rw [mem_members_of_split splitAfter]
    exact among.imp (fun own => moves.spares member own other) id
  · rw [none] at moves
    refine moves.idle_cases.imp id ?_
    rintro ⟨member, taken, holds⟩
    rw [← List.singleton_append] at holds
    exact ⟨member, taken, held_perm_of_split splitAfter split holds⟩
  · rw [ended] at moves
    obtain ⟨same, holds, kept⟩ := moves.crashes crashed
    refine ⟨same, held_perm_of_split split splitAfter holds, ?_, fun member among other => ?_⟩
    · cases server : call.server with
      | none => exact (handsBack.refused call ended server).2
      | some serial =>
        have failed : call.outcome.isReturn = false := by
          rw [Bool.eq_false_iff]
          intro returned
          rw [Pool.not_isCrash_of_isReturn returned] at crashed
          exact absurd crashed Bool.false_ne_true
        exact (handsBack.lost call serial ended server failed).2
    · rw [mem_members_of_split split] at among
      rw [mem_members_of_split splitAfter, same]
      refine among.imp (fun own => ?_) id
      rw [List.mem_append] at own ⊢
      exact own.imp id fun holds => kept member holds other

/-- The generators that crashes lose are those of the calls that crashed, in the same order. -/
theorem lostSerials_run (attempts : Nat) (factory : Nat → Except String σ) (requested : UInt64)
    (maxIdle : Option Nat) (threads : Nat) (schedule : List PoolAction) :
    ((start factory requested maxIdle threads).run attempts schedule).pool.lostSerials.reverse =
      ((start factory requested maxIdle threads).history attempts schedule).filterMap
        EndedCall.lost? := by
  have kept := run_keeps attempts
    (fun past system => system.pool.idle.poisoned = false ∧
      system.pool.lostSerials.reverse = past.filterMap EndedCall.lost?)
    (fun past system action holds => by
      obtain ⟨opened, lost⟩ := holds
      obtain ⟨before, behind, after, split, splitAfter, moves⟩ :=
        act_splits attempts system action opened
      refine ⟨act_opened attempts system action opened, ?_⟩
      rw [moves.lost, List.reverse_append, lost, List.filterMap_append]
      cases system.ends action with
      | none => rfl
      | some call => cases lost : call.lost? <;> simp [lost])
    schedule [] (start factory requested maxIdle threads) ⟨rfl, rfl⟩
  exact kept.2

/-- However calls overlap and nest, succeed, fail and crash, the lock of the idle list stays open,
so the idle generators can be counted. A call reports a poisoned lock exactly if its own source
answered one of its reads with that, and no call does as long as no source does so of its own; what
a thread gets is the outcome of such a call, or that its time is too late. The generators lost to
crashes are those of the calls that crashed. A call that crashes takes its own generator out of use
and none if the factory crashed; apart from the one that it took when it began it leaves the idle
list alone, and it leaves every other generator as it is. -/
theorem crashes_contained (attempts : Nat) (factory : Nat → Except String σ)
    (requested : UInt64) (maxIdle : Option Nat) (threads : Nat) (schedule : List PoolAction) :
    let begins := start factory requested maxIdle threads
    let system := begins.run attempts schedule
    let past := begins.history attempts schedule
    system.pool.idle.poisoned = false ∧
    system.pool.idleCount = .value system.pool.idle.content.length ∧
    (∀ earlier call behind, past = earlier ++ call :: behind →
      (call.outcome = .error .lockPoisoned ↔
        call.PassesOn attempts factory requested earlier .lockPoisoned)) ∧
    (∀ outcome, Thread.idle (some outcome) ∈ system.threads →
      (∃ ms, outcome = .error (.bigTime ms)) ∨ ∃ call ∈ past, call.outcome = outcome) ∧
    ((∀ read ∈ begins.reads attempts schedule,
        (PoolSource.fill read.1 read.2).Barring .lockPoisoned (· ≠ .error .lockPoisoned)) →
      (∀ call ∈ past, call.outcome ≠ .error .lockPoisoned) ∧
      ∀ outcome, Thread.idle (some outcome) ∈ system.threads → outcome ≠ .error .lockPoisoned) ∧
    system.pool.lostSerials.reverse = past.filterMap EndedCall.lost? ∧
    ∀ action, Contained system (system.act attempts action) (system.actor action)
      (system.ends action) := by
  intro begins system past
  have accounted := accounted_run factory requested maxIdle threads attempts schedule
  have opened : system.pool.idle.poisoned = false := accounted.opened
  have foreign : Error.Foreign .lockPoisoned := ⟨nofun, nofun⟩
  have sequential := sequential_run attempts factory requested maxIdle threads schedule
  refine ⟨opened, Pool.idleCount_of_open _ opened,
    fun earlier call behind split =>
      (sequential earlier call behind split).outcome_eq_error_iff foreign,
    reported_run attempts factory requested maxIdle threads schedule, fun honest => ?_,
    lostSerials_run attempts factory requested maxIdle threads schedule,
    fun action => act_contained attempts system action opened (accounted.handsBack attempts action)⟩
  obtain ⟨avoids, ended⟩ := run_avoids foreign attempts schedule begins rfl
    (start_avoids .lockPoisoned factory requested maxIdle threads) honest
  refine ⟨ended, fun outcome returned same => ?_⟩
  exact avoids (.idle (some outcome)) returned (congrArg some same)

/-- Two pools. The generators of the first one read from a generator behind a lock that a crash has
poisoned: a call reports a poisoned lock, although that of the pool is open. In the second one the
source of a call makes a call on the pool and crashes after it: the crash leaves the generator of
the other call idle, where apart from its own there was none. -/
theorem source_reports_poisoned_lock :
    let shared := ((Shared.new (Script.mk [.crash "no bytes"] []) 1).fill 1 5).2
    let calls (count : Nat) : List PoolAction := ⟨0, .call 5⟩ :: List.replicate count ⟨0, .step⟩
    let first : PoolSystem (Shared Script) := start (fun _ => .ok shared) 10 none 1
    let nests : Reentrant Script := ⟨⟨[.bytes [0], .crash "no bytes"], []⟩, [none, some 6]⟩
    let plain : Reentrant Script := ⟨⟨[.bytes [0]], []⟩, []⟩
    let second : PoolSystem (Reentrant Script) :=
      (start (fun serial => .ok (if serial = 0 then nests else plain)) 10 none 1).run 2 (calls 3)
    (shared.lock.poisoned = true ∧ (first.run 1 (calls 3)).pool.idle.poisoned = false ∧
      ∃ call ∈ first.history 1 (calls 3), call.outcome = .error .lockPoisoned) ∧
    (∃ call ∈ second.history 2 (calls 12), call.caller = none ∧ call.outcome.isCrash = true) ∧
      second.pool.idleSerials = [0] ∧ (second.run 2 (calls 12)).pool.idleSerials = [1] := by
  decide +kernel

end PoolSystem

end SortableId
