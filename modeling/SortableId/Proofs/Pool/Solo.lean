import Mathlib
import SortableId.Pool.Call
import SortableId.Source.Wrapped

/-!
# A call that runs alone

The next value of a counter takes a bounded number of requests, so that a call on a pool that no
other call overlaps ends within the steps it is given. Its source sees the requests of the draws,
and the call settles with their outcome.
-/

namespace SortableId

variable {σ α β : Type}

namespace Draws

/-- At most so many requests are made. -/
def Within : Draws α → Nat → Prop
  | done _, _ => True
  | read _ next, count + 1 => ∀ bytes, (next bytes).Within count
  | pick _ next, count + 1 => ∀ answer, (next answer).Within count
  | _, 0 => False

/-- A computation that goes on without a request makes no more requests. -/
theorem Within.bind {count : Nat} {draws : Draws α} {next : α → Draws β}
    (within : draws.Within count) (last : ∀ result, ∃ outcome, next result = done outcome) :
    (draws.bind next).Within count := by
  induction draws generalizing count with
  | done outcome =>
    cases outcome with
    | value result =>
      obtain ⟨outcome, ended⟩ := last result
      rw [Draws.bind, ended, Within]
      trivial
    | error cause => trivial
    | crash text => trivial
    | unfinished => trivial
  | read size more ih =>
    cases count with
    | zero => exact within.elim
    | succ count => exact fun bytes => ih bytes (within bytes)
  | pick bound more ih =>
    cases count with
    | zero => exact within.elim
    | succ count => exact fun answer => ih answer (within answer)

variable [ByteSource σ]

/-- What was recorded before a run makes no difference to it and stays recorded. -/
theorem run_recorded (draws : Draws α) (source : σ) (requests : List Request) :
    draws.run (Recorded.mk source requests) =
      let ran := draws.run (Recorded.mk source [])
      (ran.1, ⟨ran.2.inner, ran.2.requests ++ requests⟩) := by
  induction draws generalizing source requests with
  | done outcome => rfl
  | read size next ih =>
    rw [run, run]
    simp only [ByteSource.fill]
    obtain ⟨outcome, after⟩ := ByteSource.fill size source
    cases outcome with
    | value bytes =>
      dsimp only
      rw [ih, ih bytes after [.fill size]]
      simp only [List.append_assoc, List.singleton_append]
    | error cause => rfl
    | crash text => rfl
    | unfinished => rfl
  | pick bound next ih =>
    rw [run, run]
    simp only [ByteSource.below, ByteSource.belowCrash]
    obtain ⟨answer, after⟩ := ByteSource.below bound source
    cases ByteSource.belowCrash bound source with
    | none =>
      dsimp only
      rw [ih, ih answer after [.below bound]]
      simp only [List.append_assoc, List.singleton_append]
    | some text => rfl

end Draws

/-- A search makes a request for each attempt at most. -/
theorem Increment.search_within (bound : UInt64) (attempts : Nat) :
    (search bound attempts).Within attempts := by
  induction attempts with
  | zero => trivial
  | succ attempts ih =>
    intro bytes
    dsimp only
    split
    · trivial
    · exact ih

/-- The next value takes a bounded number and a search at most. -/
theorem Counter.next_within (attempts : Nat) (ms : UInt64) (counter : Counter) :
    (counter.next attempts ms).Within (attempts + 1) := by
  have freshly : fresh.Within (attempts + 1) := fun bytes => trivial
  have drawn (bound : UInt64) : (Increment.draw attempts bound).Within (attempts + 1) := by
    rw [Increment.draw]
    split
    · trivial
    · rintro (- | answer)
      · exact Increment.search_within bound attempts
      · trivial
  have advanced (bound : UInt64) (value : UInt80) :
      (advance attempts bound value).Within (attempts + 1) := by
    refine (drawn bound).bind fun increment => ?_
    split
    · exact ⟨_, rfl⟩
    · exact ⟨_, rfl⟩
  rw [next]
  split
  · split
    · exact advanced _ _
    · exact freshly
  · exact freshly

namespace Pool

/-- The pool after requests to the source of one generator, latest first. -/
def afterRequests (pool : Pool σ) (serial : Nat) (requests : List Request) : Pool σ :=
  { pool with events := requests.map (PoolEvent.asked serial) ++ pool.events }

/-- A request noted before others is the earliest of them. -/
theorem afterRequests_note (pool : Pool σ) (serial : Nat) (request : Request)
    (requests : List Request) :
    (pool.note (.asked serial request)).afterRequests serial requests =
      pool.afterRequests serial (requests ++ [request]) := by
  rw [afterRequests, note, afterRequests, List.map_append, List.append_assoc]
  rfl

/-- How a call that runs alone ends for its generator, which has made its draws. -/
def settle (ms : UInt64) (pool : Pool σ) (member : Member σ) (outcome : Outcome UInt80) :
    Outcome (Vector UInt8 10) × Pool σ :=
  match outcome with
  | .unfinished => (.unfinished, pool)
  | .crash text => (.crash text, pool.note (.lost member.serial))
  | outcome =>
    let generator := ⟨member.generator.toCounter.record ms outcome, member.generator.source⟩
    (outcome.map UInt80.toBytes, pool.checkIn { member with generator })

/-- The outcome is that of the draws. -/
theorem settle_fst (ms : UInt64) (pool : Pool σ) (member : Member σ) (outcome : Outcome UInt80) :
    (pool.settle ms member outcome).1 = outcome.map UInt80.toBytes := by
  cases outcome <;> rfl

/-- A call that returns checks its generator in. -/
theorem settle_of_return (ms : UInt64) (pool : Pool σ) (member : Member σ)
    (outcome : Outcome UInt80) (returns : outcome.isReturn = true) :
    (pool.settle ms member outcome).2 =
      pool.checkIn { member with
        generator := ⟨member.generator.toCounter.record ms outcome, member.generator.source⟩ } := by
  cases outcome with
  | value value => rfl
  | error cause => rfl
  | crash text => exact nomatch returns
  | unfinished => exact nomatch returns

variable [ByteSource σ]

/-- A thread without a call has got what its last call gave. -/
theorem runThread_idle (attempts steps : Nat) (pool : Pool σ)
    (last : Option (Outcome (Vector UInt8 10))) :
    pool.runThread attempts steps (.idle last) = (last.getD .unfinished, pool) := by
  cases steps <;> rfl

/-- A call without draws settles within a step. -/
theorem runThread_done (attempts steps : Nat) (pool : Pool σ) (member : Member σ) (ms : UInt64)
    (outcome : Outcome UInt80) :
    pool.runThread attempts (steps + 1) (.busy ⟨member, ms, .draw (.done outcome)⟩ []) =
      pool.settle ms member outcome := by
  cases outcome with
  | value value => exact runThread_idle attempts steps _ _
  | error cause => exact runThread_idle attempts steps _ _
  | crash text => exact runThread_idle attempts steps _ _
  | unfinished =>
    induction steps with
    | zero => rfl
    | succ steps ih => exact ih

/-- The two steps of a read: the request, and the answer. -/
theorem runThread_read (attempts steps : Nat) (pool : Pool σ) (member : Member σ) (ms : UInt64)
    (size : Nat) (next : Vector UInt8 size → Draws UInt80) (outcome : Outcome (Vector UInt8 size))
    (after : σ) (filled : ByteSource.fill size member.generator.source = (outcome, after)) :
    pool.runThread attempts (steps + 2) (.busy ⟨member, ms, .draw (.read size next)⟩ []) =
      (pool.note (.asked member.serial (.fill size))).runThread attempts steps
        (.busy ⟨{ member with generator := { member.generator with source := after } }, ms,
          .draw (Draws.afterRead next outcome)⟩ []) := by
  have reply : PoolSource.fill size member.generator.source = .own outcome after := by
    simp only [PoolSource.fill, filled]
  rw [runThread, step]
  dsimp only
  rw [reply, runThread, step]
  rfl

/-- The two steps of a bounded request. -/
theorem runThread_pick (attempts steps : Nat) (pool : Pool σ) (member : Member σ) (ms : UInt64)
    (bound : UInt64) (next : Option UInt64 → Draws UInt80) :
    pool.runThread attempts (steps + 2) (.busy ⟨member, ms, .draw (.pick bound next)⟩ []) =
      let source := member.generator.source
      let after := (ByteSource.below bound source).2
      (pool.note (.asked member.serial (.below bound))).runThread attempts steps
        (.busy ⟨{ member with generator := { member.generator with source := after } }, ms,
          .draw (Draws.afterPick next (ByteSource.pick bound source))⟩ []) := by
  rw [runThread, step]
  dsimp only
  rw [runThread, step]
  rfl

/-- A call that runs alone makes two steps for each request of its draws and one to settle. -/
theorem runThread_draws (attempts : Nat) (ms : UInt64) (draws : Draws UInt80) (count steps : Nat)
    (within : draws.Within count) (enough : 2 * count < steps) (pool : Pool σ)
    (member : Member σ) :
    pool.runThread attempts steps (.busy ⟨member, ms, .draw draws⟩ []) =
      let ran := draws.run (Recorded.mk member.generator.source [])
      let generator := { member.generator with source := ran.2.inner }
      (pool.afterRequests member.serial ran.2.requests).settle ms { member with generator }
        ran.1 := by
  induction draws generalizing count steps pool member with
  | done outcome =>
    obtain ⟨steps, rfl⟩ := Nat.exists_eq_add_one.mpr (Nat.zero_lt_of_lt enough)
    exact runThread_done attempts steps pool member ms outcome
  | read size next ih =>
    cases count with
    | zero => exact within.elim
    | succ count =>
      -- Two steps for the request, and one is left at least if the read fails.
      obtain ⟨steps, rfl⟩ : ∃ rest, steps = rest + 3 := ⟨steps - 3, by omega⟩
      cases filled : ByteSource.fill size member.generator.source with
      | mk outcome after =>
        rw [runThread_read attempts (steps + 1) pool member ms size next outcome after filled,
          Draws.run]
        simp only [ByteSource.fill, filled]
        cases outcome with
        | value bytes =>
          dsimp only [Draws.afterRead]
          rw [ih bytes count (steps + 1) (within bytes) (by omega)]
          dsimp only
          rw [afterRequests_note, Draws.run_recorded (next bytes) after [.fill size]]
        | error cause => exact runThread_done attempts steps _ _ ms _
        | crash text => exact runThread_done attempts steps _ _ ms _
        | unfinished => exact runThread_done attempts steps _ _ ms _
  | pick bound next ih =>
    cases count with
    | zero => exact within.elim
    | succ count =>
      obtain ⟨steps, rfl⟩ : ∃ rest, steps = rest + 3 := ⟨steps - 3, by omega⟩
      rw [runThread_pick attempts (steps + 1) pool member ms bound next, Draws.run]
      simp only [ByteSource.below, ByteSource.belowCrash, ByteSource.pick]
      cases ByteSource.belowCrash bound member.generator.source with
      | none =>
        dsimp only [Draws.afterPick]
        rw [ih _ count (steps + 1) (within _) (by omega)]
        dsimp only
        rw [afterRequests_note, Draws.run_recorded _ _ [.below bound]]
      | some text => exact runThread_done attempts steps _ _ ms _

/-- A call that runs alone with the generator that was checked out makes its draws and settles. -/
theorem fill_of_checkOut (attempts : Nat) (ms : UInt64) (pool lent : Pool σ) (member : Member σ)
    (out : pool.checkOut = (.value member, lent)) :
    pool.fill attempts ms =
      let ran := (member.generator.toCounter.next attempts ms).run
        (Recorded.mk member.generator.source [])
      let generator := { member.generator with source := ran.2.inner }
      (lent.afterRequests member.serial ran.2.requests).settle ms { member with generator }
        ran.1 := by
  have enough : 2 * (attempts + 1) < stepLimit attempts := by
    rw [stepLimit]
    calc 2 * (attempts + 1)
      _ < 2 * (attempts + 2) := by omega
      _ ≤ 2 * (attempts + 2) * (attempts + 2) := Nat.le_mul_of_pos_right _ (by omega)
  rw [fill, call, out]
  exact runThread_draws attempts ms _ (attempts + 1) _ (Counter.next_within attempts ms _) enough
    lent member

end Pool

/-- A fill over a recorded source. What was recorded before makes no difference. -/
theorem Generator.fill_recorded [ByteSource σ] (attempts : Nat) (ms : UInt64) (counter : Counter)
    (source : σ) (requests : List Request) :
    (Generator.mk counter (Recorded.mk source requests)).fill attempts ms =
      let ran := (counter.next attempts ms).run (Recorded.mk source [])
      (ran.1.map UInt80.toBytes,
        ⟨counter.record ms ran.1, ⟨ran.2.inner, ran.2.requests ++ requests⟩⟩) := by
  rw [Generator.fill, Draws.run_recorded]

end SortableId
