import Mathlib
import SortableId.Proofs.Pool.History

/-!
# Where the generators of a pool are

A generator that was built is idle, held by a call, or gone. Every move takes at most one generator
from one of these places to another, so the three counts of a generator always add up to one
(`Moves.balance`, `Accounted.act`).
-/

namespace SortableId

variable {σ : Type}

/-- The generator that an event puts out of reach. -/
def PoolEvent.gone? : PoolEvent → Option Nat
  | dropped serial => some serial
  | lost serial => some serial
  | _ => none

/-- The generators that the calls of a thread hold. -/
def Thread.held (thread : Thread σ) : List Nat := thread.frames.map fun call => call.member.serial

/-- The generators that calls hold. -/
def PoolSystem.held (system : PoolSystem σ) : List Nat :=
  system.frames.map fun call => call.member.serial

namespace Thread

/-- A thread whose calls all wait holds the generators of these. -/
theorem held_of_frames {thread : Thread σ} {waiting : List (Waiting σ)}
    (frames : thread.frames = waiting.map Waiting.frame) :
    thread.held = waiting.map fun call => call.member.serial := by
  rw [held, frames, List.map_map]
  rfl

/-- A busy thread holds the generator of the innermost call and those of the calls that wait. -/
@[simp]
theorem held_busy (call : Frame σ) (waiting : List (Waiting σ)) :
    (busy call waiting).held =
      call.member.serial :: waiting.map fun call => call.member.serial := by
  rw [held, frames, List.map_cons, List.map_map]
  rfl

/-- The call that returned holds nothing any more. -/
@[simp]
theorem held_deliver (outcome : Outcome (Vector UInt8 10)) (waiting : List (Waiting σ)) :
    (deliver outcome waiting).held = waiting.map fun call => call.member.serial := by
  cases waiting with
  | nil => rfl
  | cons call waiting => exact held_busy _ waiting

end Thread

namespace Pool

/-- The generators that are idle, the one returned last in front. -/
def idleSerials (pool : Pool σ) : List Nat := pool.idle.content.map Member.serial

/-- The generators that were dropped or lost, latest first. -/
def goneSerials (pool : Pool σ) : List Nat := pool.events.filterMap PoolEvent.gone?

/-- The generators that were built: those whose factory call returned a source. -/
def builtSerials (pool : Pool σ) : List Nat :=
  (List.range pool.built).filter fun serial => (pool.factory serial).isOk

/-- Noting an event leaves the idle generators alone. -/
@[simp]
theorem idleSerials_note (pool : Pool σ) (event : PoolEvent) :
    (pool.note event).idleSerials = pool.idleSerials := rfl

/-- A call of the factory leaves them alone. -/
@[simp]
theorem idleSerials_grown (pool : Pool σ) : pool.grown.idleSerials = pool.idleSerials := rfl

/-- With another idle list they are those of the list. -/
@[simp]
theorem idleSerials_withIdle (pool : Pool σ) (members : List (Member σ)) :
    (pool.withIdle members).idleSerials = members.map Member.serial := rfl

/-- A call of the factory puts no generator out of reach. -/
@[simp]
theorem goneSerials_grown (pool : Pool σ) : pool.grown.goneSerials = pool.goneSerials := rfl

/-- Another idle list puts none out of reach. -/
@[simp]
theorem goneSerials_withIdle (pool : Pool σ) (members : List (Member σ)) :
    (pool.withIdle members).goneSerials = pool.goneSerials := rfl

/-- Noting an event builds no generator. -/
@[simp]
theorem builtSerials_note (pool : Pool σ) (event : PoolEvent) :
    (pool.note event).builtSerials = pool.builtSerials := rfl

/-- Another idle list builds none. -/
@[simp]
theorem builtSerials_withIdle (pool : Pool σ) (members : List (Member σ)) :
    (pool.withIdle members).builtSerials = pool.builtSerials := rfl

/-- An event puts out of reach the generator that it drops or loses. -/
@[simp]
theorem goneSerials_note (pool : Pool σ) (event : PoolEvent) :
    (pool.note event).goneSerials = event.gone?.toList ++ pool.goneSerials := by
  rw [goneSerials, note, List.filterMap_cons, goneSerials]
  cases event.gone? <;> rfl

/-- A call of the factory that returns builds one generator. -/
theorem builtSerials_grown (pool : Pool σ) (source : σ)
    (made : pool.factory pool.built = .ok source) :
    pool.grown.builtSerials = pool.builtSerials ++ [pool.built] := by
  have kept : (pool.factory pool.built).isOk = true := by rw [made]; rfl
  calc pool.grown.builtSerials
    _ = (List.range (pool.built + 1)).filter fun serial => (pool.factory serial).isOk := rfl
    _ = pool.builtSerials ++ [pool.built] := by
      rw [List.range_succ, List.filter_append, List.filter_singleton, kept, builtSerials, cond_true]

/-- A call of the factory that crashes builds none. -/
theorem builtSerials_grown_of_error (pool : Pool σ) (text : String)
    (made : pool.factory pool.built = .error text) :
    pool.grown.builtSerials = pool.builtSerials := by
  have crashed : (pool.factory pool.built).isOk = false := by rw [made]; rfl
  calc pool.grown.builtSerials
    _ = (List.range (pool.built + 1)).filter fun serial => (pool.factory serial).isOk := rfl
    _ = pool.builtSerials := by
      rw [List.range_succ, List.filter_append, List.filter_singleton, crashed, builtSerials,
        cond_false, List.append_nil]

/-- What a move does with the generator of a call that it ends. -/
structure HandsBack (pool after : Pool σ) (ended : Option EndedCall) : Prop where
  /-- While no call ends, no generator is dropped or lost. -/
  stays : ended = none → after.goneSerials = pool.goneSerials
  /-- A call that got no generator leaves none behind. -/
  refused : ∀ call, ended = some call → call.server = none →
    after.idleSerials = pool.idleSerials ∧ after.goneSerials = pool.goneSerials
  /-- A call that returns, with a value or with an error, puts its generator in front of the idle
  ones, unless as many as allowed are idle already. Then the generator is dropped. -/
  returned : ∀ call serial, ended = some call → call.server = some serial →
    call.outcome.isReturn = true →
    if pool.maxIdle = some pool.idle.content.length then
      after.idleSerials = pool.idleSerials ∧ after.goneSerials = serial :: pool.goneSerials
    else after.idleSerials = serial :: pool.idleSerials ∧ after.goneSerials = pool.goneSerials
  /-- A call that crashes loses its generator. -/
  lost : ∀ call serial, ended = some call → call.server = some serial →
    call.outcome.isReturn = false →
    after.idleSerials = pool.idleSerials ∧ after.goneSerials = serial :: pool.goneSerials

/-- What is gone stays gone. -/
theorem HandsBack.gone_suffix {pool after : Pool σ} {ended : Option EndedCall}
    (handsBack : HandsBack pool after ended) :
    pool.goneSerials <:+ after.goneSerials := by
  cases ended with
  | none =>
    rw [handsBack.stays rfl]
  | some call =>
    cases server : call.server with
    | none =>
      rw [(handsBack.refused call rfl server).2]
    | some serial =>
      cases returns : call.outcome.isReturn with
      | true =>
        have returned := handsBack.returned call serial rfl server returns
        split at returned
        · rw [returned.2]
          exact List.suffix_cons serial _
        · rw [returned.2]
      | false =>
        rw [(handsBack.lost call serial rfl server returns).2]
        exact List.suffix_cons serial _

variable [PoolSource σ] {attempts : Nat} {pool after : Pool σ} {thread next : Thread σ}
  {ended : Option EndedCall}

/-- A move takes a generator from one place to another, or puts a new one in the hands of a call. -/
theorem Moves.balance (moves : Moves attempts pool thread ended after next) (serial : Nat) :
    after.idleSerials.count serial + next.held.count serial + after.goneSerials.count serial +
        pool.builtSerials.count serial =
      pool.idleSerials.count serial + thread.held.count serial + pool.goneSerials.count serial +
        after.builtSerials.count serial := by
  cases moves with
  | stays _ same => rw [Thread.held, same, ← Thread.held]
  | reuses ms waiting member rest frames idle =>
    have taken : pool.idleSerials = member.serial :: rest.map Member.serial := by
      rw [idleSerials, idle, List.map_cons]
    simp only [Thread.held_of_frames frames, Thread.held_busy, Frame.start, taken,
      idleSerials_withIdle, goneSerials_withIdle, builtSerials_withIdle, List.count_cons]
    omega
  | builds ms waiting source frames idle made =>
    simp only [Thread.held_of_frames frames, Thread.held_busy, Frame.start, idleSerials_grown,
      goneSerials_grown, builtSerials_grown pool source made, List.count_cons, List.count_append,
      List.count_nil]
    omega
  | fails ms waiting text frames idle made =>
    simp only [Thread.held_of_frames frames, Thread.held_deliver, idleSerials_grown,
      goneSerials_grown, builtSerials_grown_of_error pool text made]
  | reads call waiting size draws busy pending =>
    simp only [busy, Thread.held_busy, Frame.await, idleSerials_note, goneSerials_note,
      builtSerials_note, PoolEvent.gone?, Option.toList_none, List.nil_append]
  | picks call waiting bound draws busy pending =>
    simp only [busy, Thread.held_busy, Frame.await, idleSerials_note, goneSerials_note,
      builtSerials_note, PoolEvent.gone?, Option.toList_none, List.nil_append]
  | hears call waiting draws source busy pending =>
    simp only [busy, Thread.held_busy, Frame.advance]
  | returns call waiting outcome busy pending returned room =>
    simp only [busy, Thread.held_busy, Thread.held_deliver, Frame.finish, idleSerials_note,
      idleSerials_withIdle, goneSerials_note, goneSerials_withIdle, builtSerials_note,
      builtSerials_withIdle, PoolEvent.gone?, Option.toList_none, List.nil_append, List.map_cons,
      List.count_cons]
    rw [idleSerials]
    omega
  | drops call waiting outcome limit busy pending returned limited full =>
    simp only [busy, Thread.held_busy, Thread.held_deliver, idleSerials_note, goneSerials_note,
      builtSerials_note, PoolEvent.gone?, Option.toList_some, List.cons_append, List.nil_append,
      List.count_cons]
    omega
  | loses call waiting text busy pending =>
    simp only [busy, Thread.held_busy, Thread.held_deliver, idleSerials_note, goneSerials_note,
      builtSerials_note, PoolEvent.gone?, Option.toList_some, List.cons_append, List.nil_append,
      List.count_cons]
    omega

/-- No move changes what the pool was made with or poisons the lock of the idle list. -/
theorem Moves.make (moves : Moves attempts pool thread ended after next) :
    after.factory = pool.factory ∧ after.requested = pool.requested ∧
      after.maxIdle = pool.maxIdle ∧
      (pool.idle.poisoned = false → after.idle.poisoned = false) := by
  cases moves with
  | stays => exact ⟨rfl, rfl, rfl, id⟩
  | reuses => exact ⟨rfl, rfl, rfl, fun _ => rfl⟩
  | builds => exact ⟨rfl, rfl, rfl, id⟩
  | fails => exact ⟨rfl, rfl, rfl, id⟩
  | reads => exact ⟨rfl, rfl, rfl, id⟩
  | picks => exact ⟨rfl, rfl, rfl, id⟩
  | hears => exact ⟨rfl, rfl, rfl, id⟩
  | returns => exact ⟨rfl, rfl, rfl, fun _ => rfl⟩
  | drops => exact ⟨rfl, rfl, rfl, id⟩
  | loses => exact ⟨rfl, rfl, rfl, id⟩

/-- Only a call that returns adds to the idle list, and only below the limit. -/
theorem Moves.idle_le (moves : Moves attempts pool thread ended after next) (limit : Nat)
    (limited : pool.maxIdle = some limit) (few : pool.idle.content.length ≤ limit) :
    after.idle.content.length ≤ limit := by
  cases moves with
  | stays => exact few
  | reuses ms waiting member rest frames idle =>
    rw [idle, List.length_cons] at few
    exact Nat.le_of_succ_le few
  | builds => exact few
  | fails => exact few
  | reads => exact few
  | picks => exact few
  | hears => exact few
  | returns call waiting outcome busy pending returned room =>
    have below : pool.idle.content.length < limit := room limit limited
    exact below
  | drops => exact few
  | loses => exact few

/-- Every move hands generators back this way, as long as the idle list keeps to its limit. -/
theorem Moves.handsBack (moves : Moves attempts pool thread ended after next)
    (few : ∀ limit, pool.maxIdle = some limit → pool.idle.content.length ≤ limit) :
    HandsBack pool after ended := by
  cases moves with
  | stays => exact ⟨fun _ => rfl, nofun, nofun, nofun⟩
  | reuses => exact ⟨fun _ => rfl, nofun, nofun, nofun⟩
  | builds => exact ⟨fun _ => rfl, nofun, nofun, nofun⟩
  | fails =>
    refine ⟨nofun, fun _ _ _ => ⟨rfl, rfl⟩, ?_, ?_⟩ <;>
    · rintro call serial ⟨⟩ ⟨⟩
  | reads => exact ⟨fun _ => rfl, nofun, nofun, nofun⟩
  | picks => exact ⟨fun _ => rfl, nofun, nofun, nofun⟩
  | hears => exact ⟨fun _ => rfl, nofun, nofun, nofun⟩
  | returns call waiting outcome busy pending returned room =>
    refine ⟨nofun, ?_, ?_, ?_⟩
    · rintro _ ⟨⟩ ⟨⟩
    · rintro _ _ ⟨⟩ ⟨⟩ -
      rw [if_neg]
      · exact ⟨rfl, rfl⟩
      · intro full
        exact Nat.lt_irrefl _ (room _ full)
    · rintro _ _ ⟨⟩ ⟨⟩ crashed
      rw [Frame.ended, Outcome.isReturn_map, returned] at crashed
      exact nomatch crashed
  | drops call waiting outcome limit busy pending returned limited full =>
    refine ⟨nofun, ?_, ?_, ?_⟩
    · rintro _ ⟨⟩ ⟨⟩
    · rintro _ _ ⟨⟩ ⟨⟩ -
      have exact : pool.idle.content.length = limit := Nat.le_antisymm (few limit limited) full
      rw [if_pos (by rw [limited, exact])]
      exact ⟨rfl, rfl⟩
    · rintro _ _ ⟨⟩ ⟨⟩ -
      exact ⟨rfl, rfl⟩
  | loses call waiting text busy pending =>
    refine ⟨nofun, ?_, ?_, ?_⟩
    · rintro _ ⟨⟩ ⟨⟩
    · rintro _ _ ⟨⟩ ⟨⟩ returned
      exact nomatch returned
    · rintro _ _ ⟨⟩ ⟨⟩ -
      exact ⟨rfl, rfl⟩

end Pool

namespace PoolSystem

/-- A system whose pool was made so, with every generator in one place. -/
structure Accounted (factory : Nat → Except String σ) (requested : UInt64) (maxIdle : Option Nat)
    (system : PoolSystem σ) : Prop where
  /-- The pool was made with this factory. -/
  factory_eq : system.pool.factory = factory
  /-- It was made with this increment bound. -/
  requested_eq : system.pool.requested = requested
  /-- It was made with this limit. -/
  maxIdle_eq : system.pool.maxIdle = maxIdle
  /-- The lock of the idle list is open. -/
  opened : system.pool.idle.poisoned = false
  /-- Every generator that was built is idle, held by a call or gone, and is there once. -/
  once : (system.pool.idleSerials ++ system.held ++ system.pool.goneSerials).Perm
    system.pool.builtSerials
  /-- No more generators are idle than allowed. -/
  few : ∀ limit, maxIdle = some limit → system.pool.idle.content.length ≤ limit

/-- Nothing was built yet. -/
theorem accounted_start (factory : Nat → Except String σ) (requested : UInt64)
    (maxIdle : Option Nat) (threads : Nat) :
    Accounted factory requested maxIdle (start factory requested maxIdle threads) := by
  have nothing : (start factory requested maxIdle threads).held = [] := by
    rw [held, frames_start, List.map_nil]
  refine ⟨rfl, rfl, rfl, rfl, ?_, fun limit _ => Nat.zero_le limit⟩
  rw [nothing]
  exact .refl []

variable {factory : Nat → Except String σ} {requested : UInt64} {maxIdle : Option Nat}
  {system : PoolSystem σ}

/-- No generator is idle or held twice, or both. -/
theorem Accounted.apart (accounted : Accounted factory requested maxIdle system) :
    (system.pool.idleSerials ++ system.held).Nodup := by
  have built : system.pool.builtSerials.Nodup := List.nodup_range.filter _
  exact (accounted.once.nodup_iff.mpr built).of_append_left

/-- A generator that is held was built, over the source that the factory made for it. -/
theorem Accounted.built_of_held (accounted : Accounted factory requested maxIdle system)
    (serial : Nat) (holds : serial ∈ system.held) :
    serial < system.pool.built ∧ ∃ source, factory serial = .ok source := by
  have placed : serial ∈ system.pool.idleSerials ++ system.held ++ system.pool.goneSerials :=
    List.mem_append_left _ (List.mem_append_right _ holds)
  obtain ⟨first, made⟩ := List.mem_filter.mp (accounted.once.subset placed)
  refine ⟨List.mem_range.mp first, ?_⟩
  rw [accounted.factory_eq] at made
  cases built : factory serial with
  | ok source => exact ⟨source, rfl⟩
  | error text =>
    rw [built] at made
    cases made

/-- What a thread holds is held in the system. -/
theorem mem_held_of_split {before behind : List (Frame σ)} {thread : Thread σ}
    (split : system.frames = before ++ thread.frames ++ behind) {serial : Nat}
    (holds : serial ∈ thread.held) : serial ∈ system.held := by
  rw [held, split, List.map_append, List.map_append]
  exact List.mem_append_left _ (List.mem_append_right _ holds)

/-- What a thread holds is neither idle nor held by the other threads. -/
theorem Accounted.apart_of_split (accounted : Accounted factory requested maxIdle system)
    {before behind : List (Frame σ)} {thread : Thread σ}
    (split : system.frames = before ++ thread.frames ++ behind) :
    (system.pool.idleSerials ++ thread.held).Nodup ∧
      ∀ call ∈ before ++ behind, call.member.serial ∉ thread.held := by
  have order : (system.pool.idleSerials ++ system.held).Perm
      ((system.pool.idleSerials ++ thread.held) ++
        (before ++ behind).map fun call => call.member.serial) := by
    rw [List.perm_iff_count]
    intro serial
    simp only [held, split, Thread.held, List.map_append, List.count_append]
    omega
  obtain ⟨resting, -, disjoint⟩ := List.nodup_append.mp (order.nodup_iff.mp accounted.apart)
  refine ⟨resting, fun call among holds => ?_⟩
  exact disjoint _ (List.mem_append_right _ holds) _ (List.mem_map_of_mem among) rfl

/-- Each generator that was built is in one of the three places, and there once. -/
theorem Accounted.count (accounted : Accounted factory requested maxIdle system) (serial : Nat) :
    system.pool.idleSerials.count serial + system.held.count serial +
        system.pool.goneSerials.count serial =
      if serial < system.pool.built ∧ (factory serial).isOk then 1 else 0 := by
  have built : system.pool.builtSerials.Nodup := List.nodup_range.filter _
  have once := accounted.once.count_eq serial
  rw [List.count_append, List.count_append, built.count, Pool.builtSerials, accounted.factory_eq]
    at once
  simpa only [List.mem_filter, List.mem_range] using once

/-- Every action hands generators back as it should. -/
theorem Accounted.handsBack [PoolSource σ]
    (accounted : Accounted factory requested maxIdle system) (attempts : Nat)
    (action : PoolAction) :
    Pool.HandsBack system.pool (system.act attempts action).pool (system.ends action) := by
  obtain ⟨before, thread, behind, after, split, splitAfter, moves⟩ :=
    act_moves attempts system action accounted.opened
  refine moves.handsBack fun limit limited => accounted.few limit ?_
  rw [← limited, accounted.maxIdle_eq]

/-- An action leaves every generator in one place. -/
theorem Accounted.act [PoolSource σ] (accounted : Accounted factory requested maxIdle system)
    (attempts : Nat) (action : PoolAction) :
    Accounted factory requested maxIdle (system.act attempts action) := by
  obtain ⟨before, thread, behind, after, split, splitAfter, moves⟩ :=
    act_moves attempts system action accounted.opened
  obtain ⟨sameFactory, sameRequested, sameLimit, opened⟩ := moves.make
  refine ⟨sameFactory.trans accounted.factory_eq, sameRequested.trans accounted.requested_eq,
    sameLimit.trans accounted.maxIdle_eq, opened accounted.opened, ?_, fun limit limited => ?_⟩
  · rw [List.perm_iff_count]
    intro serial
    have balance := moves.balance serial
    have once := accounted.once.count_eq serial
    simp only [held, split, splitAfter, List.map_append, List.count_append] at once ⊢
    simp only [Thread.held] at balance
    omega
  · exact moves.idle_le limit (accounted.maxIdle_eq.trans limited) (accounted.few limit limited)

/-- After every schedule every generator is in one place. -/
theorem accounted_run [PoolSource σ] (factory : Nat → Except String σ) (requested : UInt64)
    (maxIdle : Option Nat) (threads attempts : Nat) (schedule : List PoolAction) :
    Accounted factory requested maxIdle
      ((start factory requested maxIdle threads).run attempts schedule) :=
  run_keeps attempts (fun _ system => Accounted factory requested maxIdle system)
    (fun _ _ action accounted => accounted.act attempts action) schedule []
    (start factory requested maxIdle threads) (accounted_start factory requested maxIdle threads)

/-- What is gone stays gone for the rest of a run. -/
theorem Accounted.gone_suffix [PoolSource σ]
    (accounted : Accounted factory requested maxIdle system) (attempts : Nat)
    (schedule : List PoolAction) :
    system.pool.goneSerials <:+ (system.run attempts schedule).pool.goneSerials := by
  have kept := run_keeps attempts
    (fun _ later => Accounted factory requested maxIdle later ∧
      system.pool.goneSerials <:+ later.pool.goneSerials)
    (fun _ _ action holds => ⟨holds.1.act attempts action,
      holds.2.trans (holds.1.handsBack attempts action).gone_suffix⟩)
    schedule [] system ⟨accounted, List.suffix_rfl⟩
  exact kept.2

end PoolSystem

end SortableId
