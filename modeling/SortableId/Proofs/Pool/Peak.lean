import Mathlib
import SortableId.Proofs.Pool.Places

/-!
# A pool grows to its peak

A pool without a limit on its idle generators calls its factory only when every generator that it
has built is held. So as long as nothing crashes, the idle and the held generators together are all
that were built, and they are as many as the calls that have held one at the same time.
-/

namespace SortableId

variable {σ : Type}

namespace Pool

variable [PoolSource σ] {attempts : Nat} {pool after : Pool σ} {thread next : Thread σ}
  {ended : Option EndedCall}

/-- A call that ends has returned, unless it crashed. -/
theorem Moves.isReturn_of_ended {call : EndedCall}
    (moves : Moves attempts pool thread (some call) after next)
    (calm : call.outcome.isCrash = false) : call.outcome.isReturn = true := by
  cases moves with
  | fails => exact nomatch calm
  | returns call waiting outcome busy pending returned room =>
    exact (Outcome.isReturn_map _ outcome).trans returned
  | drops call waiting outcome limit busy pending returned limited full =>
    exact (Outcome.isReturn_map _ outcome).trans returned
  | loses => exact nomatch calm

/-- A move that does not crash builds nothing, or one generator when none is idle. -/
theorem Moves.built_cases (moves : Moves attempts pool thread ended after next)
    (calm : ∀ call, ended = some call → call.outcome.isCrash = false) :
    after.built = pool.built ∧ after.builtSerials = pool.builtSerials ∨
      after.built = pool.built + 1 ∧ after.builtSerials = pool.builtSerials ++ [pool.built] ∧
        after.idle.content = [] := by
  cases moves with
  | builds ms waiting source frames idle made =>
    exact .inr ⟨rfl, builtSerials_grown pool source made, idle⟩
  | fails => exact nomatch calm _ rfl
  | stays => exact .inl ⟨rfl, rfl⟩
  | reuses => exact .inl ⟨rfl, rfl⟩
  | reads => exact .inl ⟨rfl, rfl⟩
  | picks => exact .inl ⟨rfl, rfl⟩
  | hears => exact .inl ⟨rfl, rfl⟩
  | returns => exact .inl ⟨rfl, rfl⟩
  | drops => exact .inl ⟨rfl, rfl⟩
  | loses => exact .inl ⟨rfl, rfl⟩

end Pool

namespace PoolSystem

/-- The largest number of calls that have held a generator at the same time during a schedule. -/
def peak [PoolSource σ] (attempts : Nat) : PoolSystem σ → List PoolAction → Nat
  | system, [] => system.frames.length
  | system, action :: schedule =>
    max system.frames.length (peak attempts (system.act attempts action) schedule)

/-- A system whose pool has no limit and has lost nothing, with a generator for each factory call.
-/
structure Whole (factory : Nat → Except String σ) (requested : UInt64) (system : PoolSystem σ) :
    Prop where
  /-- Every generator is in one place. -/
  accounted : Accounted factory requested none system
  /-- None is gone. -/
  kept : system.pool.goneSerials = []
  /-- Every call of the factory has built one. -/
  made : system.pool.builtSerials.length = system.pool.built

variable {factory : Nat → Except String σ} {requested : UInt64} {system : PoolSystem σ}

/-- The idle and the held generators are all that were built. -/
theorem Whole.count (whole : Whole factory requested system) :
    system.pool.idle.content.length + system.frames.length = system.pool.built := by
  have once := whole.accounted.once.length_eq
  rw [whole.kept, List.append_nil, List.length_append, whole.made, Pool.idleSerials, held,
    List.length_map, List.length_map] at once
  exact once

/-- An action without a crash loses nothing, and builds only for a new peak. -/
theorem Whole.act [PoolSource σ] (whole : Whole factory requested system) (attempts : Nat)
    (action : PoolAction)
    (calm : ∀ call, system.ends action = some call → call.outcome.isCrash = false) :
    Whole factory requested (system.act attempts action) ∧
      (system.act attempts action).pool.built =
        max system.pool.built (system.act attempts action).frames.length := by
  obtain ⟨before, thread, behind, next, split, splitAfter, moves⟩ :=
    act_moves attempts system action whole.accounted.opened
  have handsBack := whole.accounted.handsBack attempts action
  have kept : (system.act attempts action).pool.goneSerials = [] := by
    cases ended : system.ends action with
    | none => exact (handsBack.stays ended).trans whole.kept
    | some call =>
      rw [ended] at moves
      have returns := moves.isReturn_of_ended (calm call ended)
      cases server : call.server with
      | none => exact (handsBack.refused call ended server).2.trans whole.kept
      | some serial =>
        have returned := handsBack.returned call serial ended server returns
        rw [whole.accounted.maxIdle_eq, if_neg nofun] at returned
        exact returned.2.trans whole.kept
  have cases := moves.built_cases calm
  have made : (system.act attempts action).pool.builtSerials.length =
      (system.act attempts action).pool.built := by
    rcases cases with ⟨built, serials⟩ | ⟨built, serials, -⟩
    · rw [built, serials, whole.made]
    · rw [built, serials, List.length_append, whole.made, List.length_singleton]
  have whole' : Whole factory requested (system.act attempts action) :=
    ⟨whole.accounted.act attempts action, kept, made⟩
  refine ⟨whole', ?_⟩
  -- The calls are at most as many as the generators, and exactly as many when none is idle.
  have count := whole'.count
  rcases cases with ⟨built, -⟩ | ⟨built, -, empty⟩
  · omega
  · rw [empty, List.length_nil] at count
    omega

/-- A run without a crash loses nothing, and has built as many generators as its peak. -/
theorem Whole.run [PoolSource σ] (attempts : Nat) (schedule : List PoolAction)
    (system : PoolSystem σ) (whole : Whole factory requested system)
    (calm : ∀ call ∈ system.history attempts schedule, call.outcome.isCrash = false) :
    Whole factory requested (system.run attempts schedule) ∧
      (system.run attempts schedule).pool.built =
        max system.pool.built (system.peak attempts schedule) := by
  induction schedule generalizing system with
  | nil =>
    refine ⟨whole, ?_⟩
    have count := whole.count
    change system.pool.built = max system.pool.built system.frames.length
    omega
  | cons action schedule ih =>
    rw [history, List.forall_mem_append] at calm
    obtain ⟨first, rest⟩ := calm
    obtain ⟨wholeAfter, built⟩ := whole.act attempts action fun call ended =>
      first call (by rw [ended]; exact List.mem_singleton_self call)
    obtain ⟨wholeEnd, grown⟩ := ih (system.act attempts action) wholeAfter rest
    refine ⟨wholeEnd, ?_⟩
    have least : (system.act attempts action).frames.length ≤
        (system.act attempts action).peak attempts schedule := by
      cases schedule with
      | nil => exact Nat.le_refl _
      | cons later schedule => exact Nat.le_max_left _ _
    have count := whole.count
    calc (system.run attempts (action :: schedule)).pool.built
      _ = ((system.act attempts action).run attempts schedule).pool.built := rfl
      _ = max (max system.pool.built (system.act attempts action).frames.length)
            ((system.act attempts action).peak attempts schedule) := by rw [grown, built]
      _ = max system.pool.built (max system.frames.length
            ((system.act attempts action).peak attempts schedule)) := by omega

/-- A thread that is in the same calls afterwards leaves the calls of the system as they are. -/
theorem flatMap_frames_set (threads : List (Thread σ)) (number : Nat) (thread after : Thread σ)
    (found : threads[number]? = some thread) (same : after.frames = thread.frames) :
    (threads.set number after).flatMap Thread.frames = threads.flatMap Thread.frames := by
  obtain ⟨inside, rfl⟩ := List.getElem?_eq_some_iff.mp found
  have back : (threads.map Thread.frames).set number after.frames =
      threads.map Thread.frames := by
    rw [same, ← List.getElem_map Thread.frames (h := by rwa [List.length_map])]
    exact List.set_getElem_self _
  rw [List.flatMap_def, List.map_set, back, List.flatMap_def]

/-- A call for an identifier whose time is too late does nothing to the pool and holds nothing. -/
theorem act_next_of_late [PoolSource σ] (attempts : Nat) (system : PoolSystem σ) (thread : Nat)
    (ms : UInt64) (late : maxTime < ms) :
    (system.act attempts ⟨thread, .next ms⟩).pool = system.pool ∧
      (system.act attempts ⟨thread, .next ms⟩).frames = system.frames := by
  rw [act]
  cases found : system.threads[thread]? with
  | none => exact ⟨rfl, rfl⟩
  | some state =>
    cases state with
    | idle last =>
      have refused : system.pool.turn attempts (.idle last) (.next ms) =
          (system.pool, .idle (some (.error (.bigTime ms)))) := by
        rw [Pool.turn, Ulid.withTime, if_pos late]
      dsimp only
      rw [refused]
      exact ⟨rfl, flatMap_frames_set system.threads thread (.idle last) _ found rfl⟩
    | busy call waiting =>
      exact ⟨rfl, flatMap_frames_set system.threads thread (.busy call waiting) _ found rfl⟩

/-- As long as neither a source nor a factory crashes, a pool without a limit has built at every
moment as many generators as the calls that have held one at the same time. When no call is in
progress they are all idle. A call that is refused for its time never counts. -/
theorem grows_to_peak [PoolSource σ] (attempts : Nat) (factory : Nat → Except String σ)
    (requested : UInt64) (threads : Nat) (schedule : List PoolAction)
    (calm : ∀ call ∈ (start factory requested none threads).history attempts schedule,
      call.outcome.isCrash = false) :
    let system := (start factory requested none threads).run attempts schedule
    let peak := (start factory requested none threads).peak attempts schedule
    system.pool.built = peak ∧
    (system.frames = [] → system.pool.idleCount = .value peak) ∧
    ∀ thread ms, maxTime < ms →
      (system.act attempts ⟨thread, .next ms⟩).pool = system.pool ∧
        (system.act attempts ⟨thread, .next ms⟩).frames = system.frames := by
  intro system peak
  have begins : Whole factory requested (start factory requested none threads) :=
    ⟨accounted_start factory requested none threads, rfl, rfl⟩
  obtain ⟨whole, built⟩ := Whole.run attempts schedule _ begins calm
  have built : system.pool.built = peak := built.trans (Nat.zero_max _)
  refine ⟨built, fun quiet => ?_, act_next_of_late attempts system⟩
  have count := whole.count
  rw [quiet, List.length_nil, Nat.add_zero] at count
  rw [Pool.idleCount_of_open _ whole.accounted.opened, count, built]

/-- Two threads, of which the first has a nested call: three calls hold a generator at the same time
before all of them return, and three generators are idle in the end. -/
theorem grows_to_peak_of_nested :
    let factory : Nat → Except String (Reentrant Zeros) :=
      fun serial => .ok ⟨Zeros.mk, if serial = 0 then [some 9] else []⟩
    let first : List PoolAction := [⟨0, .call 5⟩, ⟨1, .next 5⟩, ⟨0, .step⟩, ⟨0, .step⟩]
    let rest := List.replicate 7 (PoolAction.mk 0 .step) ++ List.replicate 3 ⟨1, .step⟩
    let schedule := first ++ rest
    (∀ call ∈ (start factory 1 none 2).history 1 schedule, call.outcome.isCrash = false) ∧
      ((start factory 1 none 2).run 1 schedule).pool.built = 3 ∧
      ((start factory 1 none 2).run 1 schedule).pool.idleCount = .value 3 := by
  intro factory first rest schedule
  have calm : ∀ call ∈ (start factory 1 none 2).history 1 schedule,
      call.outcome.isCrash = false := by decide +kernel
  have peak : (start factory 1 none 2).peak 1 schedule = 3 := by decide +kernel
  have quiet : ((start factory 1 none 2).run 1 schedule).frames = [] :=
    List.isEmpty_iff.mp (by decide +kernel)
  obtain ⟨built, idle, -⟩ := grows_to_peak 1 factory 1 2 schedule calm
  have idle := idle quiet
  rw [peak] at built idle
  exact ⟨calm, built, idle⟩

end PoolSystem

end SortableId
