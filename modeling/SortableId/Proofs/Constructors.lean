import Mathlib
import SortableId.Generator.Forwarded
import SortableId.Shared
import SortableId.Pool.Schedule
import SortableId.Proofs.Fill

/-!
# The constructors

An identifier is made in three ways: by the choice of `Ulid.new`, from a byte source, and from a
monotonic source, which may be a generator, a shared one, a pool or a reference to one of them. Each
checks the time before it asks for anything, and then asks once for ten bytes: `Ulid.makeBy`. So a
time that is too late leaves every source as it was, whatever state that is in, and a time that fits
gives the identifier of the bytes delivered or the end of the request.
-/

namespace SortableId

/-- A monotonic source with the milliseconds that it was asked to fill for. -/
structure Watched (τ : Type) where
  /-- The source inside. -/
  inner : τ
  /-- One for each request, latest first. -/
  asked : List UInt64

instance {τ : Type} [MonotonicSource τ] : MonotonicSource (Watched τ) where
  fillMonotonic attempts ms source :=
    let (outcome, inner) := MonotonicSource.fillMonotonic attempts ms source.inner
    (outcome, ⟨inner, ms :: source.asked⟩)

namespace Ulid

/-- What is made for a millisecond of a request for ten bytes, by how that ended. -/
structure MadeOf (ms : UInt64) (filled : Outcome (Vector UInt8 10)) (made : Outcome Ulid) :
    Prop where
  /-- An identifier has the millisecond and exactly the bytes delivered. -/
  value : ∀ id, made = .value id ↔ id.timestamp = ms ∧ filled = .value id.entropy
  /-- An error is that of the request. -/
  error : ∀ cause, made = .error cause ↔ filled = .error cause
  /-- A crash is that of the request. -/
  crash : ∀ text, made = .crash text ↔ filled = .crash text
  /-- It does not end if the request does not. -/
  unfinished : made = .unfinished ↔ filled = .unfinished

/-- A constructor that checks the time before its one request. -/
structure TimeFirst {σ : Type} (make : UInt64 → σ → Outcome Ulid × σ)
    (ask : UInt64 → σ → Outcome (Vector UInt8 10) × σ) : Prop where
  /-- A time that is too late is the error, and the source stays. -/
  late : ∀ ms source, maxTime < ms → make ms source = (.error (.bigTime ms), source)
  /-- For any other time the result is made of the request. -/
  made : ∀ ms source, ms ≤ maxTime → MadeOf ms (ask ms source).1 (make ms source).1
  /-- The source is left as by the request. -/
  left : ∀ ms source, ms ≤ maxTime → (make ms source).2 = (ask ms source).2

variable {σ : Type}

/-- An identifier for a millisecond, with the bytes of one request. -/
def makeBy (ask : UInt64 → σ → Outcome (Vector UInt8 10) × σ) (ms : UInt64) (source : σ) :
    Outcome Ulid × σ :=
  match zero.withTime ms with
  | .error cause => (.error cause, source)
  | .ok id =>
    let (outcome, source) := ask ms source
    (outcome.map id.withEntropyBytes, source)

/-- Plain bytes are one read of ten. -/
theorem withRandom_eq [ByteSource σ] (ms : UInt64) (source : σ) :
    withRandom ms source = makeBy (fun _ => ByteSource.fill 10) ms source := rfl

/-- Monotonic bytes are one fill for the millisecond. -/
theorem withMonotonic_eq [MonotonicSource σ] (attempts : Nat) (ms : UInt64) (source : σ) :
    withMonotonic attempts ms source =
      makeBy (MonotonicSource.fillMonotonic attempts) ms source := rfl

/-- Entropy put into an identifier of the millisecond is made of the request for it. -/
theorem madeOf_map (dated : Ulid) (filled : Outcome (Vector UInt8 10)) :
    MadeOf dated.timestamp filled (filled.map dated.withEntropyBytes) where
  value id := by
    rw [Outcome.map_eq_value_iff]
    constructor
    · rintro ⟨bytes, same, rfl⟩
      obtain ⟨time, rfl⟩ := (withEntropyBytes_eq_iff dated id bytes).mp same
      exact ⟨time, rfl⟩
    · rintro ⟨time, rfl⟩
      exact ⟨id.entropy, (withEntropyBytes_eq_iff dated id _).mpr ⟨time, rfl⟩, rfl⟩
  error := Outcome.map_eq_error_iff _ filled
  crash := Outcome.map_eq_crash_iff _ filled
  unfinished := Outcome.map_eq_unfinished_iff _ filled

/-- One request after the check of the time is a constructor that checks the time first. -/
theorem makeBy_timeFirst (ask : UInt64 → σ → Outcome (Vector UInt8 10) × σ) :
    TimeFirst (makeBy ask) ask where
  late ms source late := by rw [makeBy, withTime, if_pos late]
  made ms source fits := by
    obtain ⟨dated, taken⟩ := exists_withTime zero ms fits
    obtain ⟨rfl, -⟩ := (withTime_eq_ok_iff zero dated ms).mp taken
    rw [makeBy, taken]
    exact madeOf_map dated _
  left ms source fits := by
    obtain ⟨dated, taken⟩ := exists_withTime zero ms fits
    rw [makeBy, taken]

/-- A source around another that is asked by way of it: what is made is the same, and the source
around it is left as by the request if there was one. -/
theorem makeBy_through {κ : Type} (ask : UInt64 → σ → Outcome (Vector UInt8 10) × σ)
    (outer : UInt64 → κ → Outcome (Vector UInt8 10) × κ) (enclose reached : σ → κ) (ms : UInt64)
    (source : σ)
    (through : outer ms (enclose source) = ((ask ms source).1, reached (ask ms source).2)) :
    makeBy outer ms (enclose source) =
      ((makeBy ask ms source).1,
        (if maxTime < ms then enclose else reached) (makeBy ask ms source).2) := by
  by_cases late : maxTime < ms
  · rw [(makeBy_timeFirst outer).late ms _ late, (makeBy_timeFirst ask).late ms source late,
      if_pos late]
  · obtain ⟨dated, taken⟩ := exists_withTime zero ms (UInt64.not_lt.mp late)
    rw [makeBy, makeBy, taken, if_neg late]
    dsimp only
    rw [through]

/-- A record of the requests to a byte source has one more for a time that fits. -/
theorem withRandom_recorded [ByteSource σ] (ms : UInt64) (source : σ) (requests : List Request) :
    withRandom ms (Recorded.mk source requests) =
      ((withRandom ms source).1, ⟨(withRandom ms source).2,
        if maxTime < ms then requests else .fill 10 :: requests⟩) := by
  rw [withRandom_eq, withRandom_eq]
  rw [makeBy_through (fun _ => ByteSource.fill 10) _ (Recorded.mk · requests)
    (Recorded.mk · (.fill 10 :: requests)) ms source rfl]
  split <;> rfl

/-- A record of the fills of a monotonic source has one more for a time that fits. -/
theorem withMonotonic_watched [MonotonicSource σ] (attempts : Nat) (ms : UInt64) (source : σ)
    (asked : List UInt64) :
    withMonotonic attempts ms (Watched.mk source asked) =
      ((withMonotonic attempts ms source).1, ⟨(withMonotonic attempts ms source).2,
        if maxTime < ms then asked else ms :: asked⟩) := by
  rw [withMonotonic_eq, withMonotonic_eq]
  rw [makeBy_through (MonotonicSource.fillMonotonic attempts) _ (Watched.mk · asked)
    (Watched.mk · (ms :: asked)) ms source rfl]
  split <;> rfl

/-- A reference gives what its source gives, and the source is left the same. -/
theorem withMonotonic_forwarded [MonotonicSource σ] (attempts : Nat) (ms : UInt64) (source : σ) :
    withMonotonic attempts ms (Forwarded.mk source) =
      ((withMonotonic attempts ms source).1, ⟨(withMonotonic attempts ms source).2⟩) := by
  rw [withMonotonic_eq, withMonotonic_eq]
  rw [makeBy_through (MonotonicSource.fillMonotonic attempts) _ Forwarded.mk Forwarded.mk ms source
    rfl, ite_self]

/-- Under a poisoned lock the time is still what is reported first, and the lock is asked only for a
time that fits. -/
theorem withMonotonic_of_poisoned [ByteSource σ] (attempts : Nat) (ms : UInt64) (shared : Shared σ)
    (poisoned : shared.lock.poisoned = true) :
    withMonotonic attempts ms shared =
      (.error (if maxTime < ms then .bigTime ms else .lockPoisoned), shared) := by
  have refused :
      MonotonicSource.fillMonotonic attempts ms shared = (.error .lockPoisoned, shared) := by
    simp only [MonotonicSource.fillMonotonic, Shared.fill, Guarded.enter_of_poisoned _ _ poisoned]
  by_cases late : maxTime < ms
  · rw [withMonotonic_of_late attempts ms shared late, if_pos late]
  · rw [withMonotonic, withTime, if_neg late, if_neg late, refused]
    rfl

end Ulid

/-- The turn of a thread that begins a call for an identifier: it is over for a time that is too
late, and a call on the pool for any other. -/
theorem Pool.turn_next {σ : Type} [PoolSource σ] (attempts : Nat) (pool : Pool σ)
    (last : Option (Outcome (Vector UInt8 10))) (ms : UInt64) :
    pool.turn attempts (.idle last) (.next ms) =
      if maxTime < ms then (pool, .idle (some (.error (.bigTime ms))))
      else pool.turn attempts (.idle last) (.call ms) := by
  by_cases late : maxTime < ms
  · simp only [turn, Ulid.withTime, if_pos late]
  · simp only [turn, Ulid.withTime, if_neg late]

/-- A thread of a system begins a call for an identifier by the same rule, whatever state the pool
and the other threads are in. -/
theorem PoolSystem.act_next {σ : Type} [PoolSource σ] (attempts : Nat) (system : PoolSystem σ)
    (thread : Nat) (last : Option (Outcome (Vector UInt8 10))) (ms : UInt64)
    (waits : system.threads[thread]? = some (.idle last)) :
    system.act attempts ⟨thread, .next ms⟩ =
      if maxTime < ms then
        ⟨system.pool, system.threads.set thread (.idle (some (.error (.bigTime ms))))⟩
      else system.act attempts ⟨thread, .call ms⟩ := by
  rw [act, act, waits]
  dsimp only
  rw [Pool.turn_next]
  split <;> rfl

namespace Ulid

/-- The ways to make an identifier agree, also through a reference to a monotonic source. Each
checks the time before it asks its source, in every state of it: a generator, a shared one, a pool
or a reference to one. A record of the requests gets one more for a time that fits and none
otherwise; a poisoned lock is noticed for a time that fits only; and a thread of a pool that is used
by others, too, is refused for its time without a check-out or a call of the factory. -/
theorem constructors_agree {σ τ π : Type} [ByteSource σ] [MonotonicSource τ] [PoolSource π]
    (attempts : Nat) :
    (∀ ms (source : σ), new attempts ms (.random inferInstance) source = withRandom ms source) ∧
    (∀ ms (source : τ),
      new attempts ms (.monotonic inferInstance) source = withMonotonic attempts ms source ∧
      withMonotonic attempts ms (Forwarded.mk source) =
        ((withMonotonic attempts ms source).1, ⟨(withMonotonic attempts ms source).2⟩)) ∧
    TimeFirst (withRandom : UInt64 → σ → _) (fun _ => ByteSource.fill 10) ∧
    TimeFirst (withMonotonic attempts : UInt64 → τ → _)
      (MonotonicSource.fillMonotonic attempts) ∧
    (∀ ms (source : σ) requests, withRandom ms (Recorded.mk source requests) =
      ((withRandom ms source).1, ⟨(withRandom ms source).2,
        if maxTime < ms then requests else .fill 10 :: requests⟩)) ∧
    (∀ ms (source : τ) asked, withMonotonic attempts ms (Watched.mk source asked) =
      ((withMonotonic attempts ms source).1, ⟨(withMonotonic attempts ms source).2,
        if maxTime < ms then asked else ms :: asked⟩)) ∧
    (∀ ms (shared : Shared σ), shared.lock.poisoned = true →
      withMonotonic attempts ms shared =
        (.error (if maxTime < ms then .bigTime ms else .lockPoisoned), shared)) ∧
    ∀ (system : PoolSystem π) thread last ms, system.threads[thread]? = some (.idle last) →
      system.act attempts ⟨thread, .next ms⟩ =
        if maxTime < ms then
          ⟨system.pool, system.threads.set thread (.idle (some (.error (.bigTime ms))))⟩
        else system.act attempts ⟨thread, .call ms⟩ := by
  refine ⟨fun ms source => new_random attempts ms inferInstance source, fun ms source => ?_,
    makeBy_timeFirst _, makeBy_timeFirst _, withRandom_recorded, withMonotonic_watched attempts,
    withMonotonic_of_poisoned attempts, PoolSystem.act_next attempts⟩
  exact ⟨new_monotonic attempts ms inferInstance source, withMonotonic_forwarded attempts ms source⟩

end Ulid

end SortableId
