import Mathlib
import SortableId.Ulid.Construction
import SortableId.Proofs.Drawing
import SortableId.Proofs.Fields

/-!
# Monotonic fills

A fill that succeeds has recorded what it delivers, above the last value if that was of the same
millisecond and fresh otherwise; any other fill leaves the memory alone. An identifier made with a
monotonic source is the fill for its timestamp, and one that is not made left the source as it was
or after a fill that failed.
-/

namespace SortableId

namespace Generator

variable {σ : Type} [ByteSource σ]

/-- What a fill with a value for a millisecond has done to a generator. -/
structure Filled (ms : UInt64) (before after : Generator σ) (value : UInt80) : Prop where
  /-- The memory holds the value. -/
  recorded : after.last = some (ms, value)
  /-- The bound on increments stays. -/
  bound : after.bound = before.bound
  /-- The value is an increment above the last one of the same millisecond. -/
  above : ∀ last, before.last = some (ms, last) → Counter.Advances before.bound last value
  /-- Without a last value of the same millisecond it is read from the source. -/
  fresh : (∀ last, before.last ≠ some (ms, last)) →
    (ByteSource.fill 10 before.source).1 = .value value.toBytes

/-- A fresh value is the one that ten bytes of the source denote. -/
theorem fresh_of_run (source : σ) (value : UInt80)
    (ran : (Counter.fresh.run source).1 = .value value) :
    (ByteSource.fill 10 source).1 = .value value.toBytes := by
  rw [Counter.fresh, Draws.run] at ran
  cases filled : ByteSource.fill 10 source with
  | mk outcome after =>
    rw [filled] at ran
    cases outcome with
    | value bytes =>
      obtain rfl : UInt80.ofBytes bytes = value := Outcome.value.inj ran
      rw [UInt80.toBytes_ofBytes]
    | error cause => cases ran
    | crash text => cases ran
    | unfinished => cases ran

/-- A fill is the run of the next draws, recorded. -/
theorem fill_eq (attempts : Nat) (ms : UInt64) (generator : Generator σ) :
    generator.fill attempts ms =
      let ran := (generator.toCounter.next attempts ms).run generator.source
      (ran.1.map UInt80.toBytes, ⟨generator.toCounter.record ms ran.1, ran.2⟩) := rfl

/-- A fill records what it delivers. -/
theorem fill_memory (attempts : Nat) (ms : UInt64) (generator : Generator σ) :
    (generator.fill attempts ms).2.toCounter =
      generator.toCounter.record ms ((generator.fill attempts ms).1.map UInt80.ofBytes) := by
  rw [fill_eq]
  dsimp only
  cases ((generator.toCounter.next attempts ms).run generator.source).1 with
  | value value =>
    have stored := congrArg Outcome.value (UInt80.ofBytes_toBytes value)
    exact congrArg (generator.toCounter.record ms) stored.symm
  | error cause => rfl
  | crash text => rfl
  | unfinished => rfl

/-- A fill that delivers bytes has recorded their value. -/
theorem fill_of_value (bounded : ByteSource.Bounded σ) (attempts : Nat) (ms : UInt64)
    (generator after : Generator σ) (bytes : Vector UInt8 10)
    (filled : generator.fill attempts ms = (.value bytes, after)) :
    Filled ms generator after (UInt80.ofBytes bytes) := by
  rw [fill_eq] at filled
  dsimp only at filled
  generalize drawn : (generator.toCounter.next attempts ms).run generator.source = ran at filled
  obtain ⟨outcome, source⟩ := ran
  obtain ⟨delivered, rfl⟩ := Prod.mk.inj filled
  cases outcome with
  | value value =>
    obtain rfl : value.toBytes = bytes := Outcome.value.inj delivered
    rw [UInt80.ofBytes_toBytes]
    have ended := congrArg Prod.fst drawn
    refine ⟨rfl, rfl, fun last memory => ?_, fun other => ?_⟩
    · rw [Counter.next_of_same attempts ms _ last memory] at ended
      exact (Counter.advance_yields attempts _ last).of_run bounded _ value ended
    · rw [Counter.next_of_other attempts ms _ other] at ended
      exact fresh_of_run _ value ended
  | error cause => exact nomatch delivered
  | crash text => exact nomatch delivered
  | unfinished => exact nomatch delivered

/-- A fill that delivers bytes remembers their value and nothing else. -/
theorem fill_remembers (attempts : Nat) (ms : UInt64) (generator after : Generator σ)
    (bytes : Vector UInt8 10) (filled : generator.fill attempts ms = (.value bytes, after)) :
    after.last = some (ms, UInt80.ofBytes bytes) ∧ after.bound = generator.bound := by
  have memory := fill_memory attempts ms generator
  rw [filled] at memory
  have bound := congrArg Counter.bound memory
  exact ⟨congrArg Counter.last memory, bound⟩

/-- A fill that delivers nothing leaves the memory alone. -/
theorem fill_of_failure (attempts : Nat) (ms : UInt64) (generator after : Generator σ)
    (outcome : Outcome (Vector UInt8 10))
    (filled : generator.fill attempts ms = (outcome, after))
    (failed : ∀ bytes, outcome ≠ .value bytes) : after.toCounter = generator.toCounter := by
  have memory := fill_memory attempts ms generator
  rw [filled] at memory
  cases outcome with
  | value bytes => exact absurd rfl (failed bytes)
  | error cause => exact memory
  | crash text => exact memory
  | unfinished => exact memory

/-- The reads that a fill makes, in order, each with its size and the source as it is then. -/
def reads (attempts : Nat) (ms : UInt64) (generator : Generator σ) : List (Nat × σ) :=
  (generator.toCounter.next attempts ms).reads generator.source

/-- A fill ends with an error other than an overflow exactly if one of its reads was answered with
it. -/
theorem fill_eq_error_iff (attempts : Nat) (ms : UInt64) (generator : Generator σ) {cause : Error}
    (other : cause ≠ .monotonicOverflow) :
    (generator.fill attempts ms).1 = .error cause ↔
      ∃ asked ∈ generator.reads attempts ms,
        (ByteSource.fill asked.1 asked.2).1 = .error cause := by
  have avoids := Counter.next_avoids other attempts ms generator.toCounter
  rw [fill_eq, reads, ← avoids.run_eq_error_iff generator.source]
  exact Outcome.map_eq_error_iff UInt80.toBytes _ cause

end Generator

namespace Ulid

variable {σ : Type}

/-- The two ways to make an identifier with a monotonic source are one. -/
theorem new_monotonic (attempts : Nat) (ms : UInt64) (choice : MonotonicSource σ) (state : σ) :
    new attempts ms (.monotonic choice) state = withMonotonic attempts ms state := rfl

/-- The two ways to make an identifier with plain bytes are one. -/
theorem new_random (attempts : Nat) (ms : UInt64) (choice : ByteSource σ) (state : σ) :
    new attempts ms (.random choice) state = withRandom ms state := rfl

/-- An identifier made with a monotonic source has the time asked for and the bytes filled. -/
theorem withMonotonic_of_value [MonotonicSource σ] (attempts : Nat) (ms : UInt64)
    (source after : σ) (id : Ulid)
    (made : withMonotonic attempts ms source = (.value id, after)) :
    id.timestamp = ms ∧
      MonotonicSource.fillMonotonic attempts ms source = (.value id.entropy, after) := by
  rw [withMonotonic] at made
  cases dated : zero.withTime ms with
  | error cause =>
    rw [dated] at made
    exact nomatch congrArg Prod.fst made
  | ok fresh =>
    rw [dated] at made
    have time := ((withTime_eq_ok_iff _ _ _).mp dated).1
    generalize filled : MonotonicSource.fillMonotonic attempts ms source = fill at made ⊢
    obtain ⟨outcome, state⟩ := fill
    obtain ⟨delivered, rfl⟩ := Prod.mk.inj made
    cases outcome with
    | value bytes =>
      obtain rfl : fresh.withEntropyBytes bytes = id := Outcome.value.inj delivered
      rw [timestamp_withEntropyBytes, entropy_withEntropyBytes]
      exact ⟨time, rfl⟩
    | error cause => exact nomatch delivered
    | crash text => exact nomatch delivered
    | unfinished => exact nomatch delivered

/-- An identifier that is not made with a monotonic source left that alone, or its fill failed. -/
theorem withMonotonic_of_failure [MonotonicSource σ] (attempts : Nat) (ms : UInt64)
    (source after : σ) (outcome : Outcome Ulid)
    (made : withMonotonic attempts ms source = (outcome, after))
    (failed : ∀ id, outcome ≠ .value id) :
    after = source ∨ ∃ fill : Outcome (Vector UInt8 10), (∀ bytes, fill ≠ .value bytes) ∧
      MonotonicSource.fillMonotonic attempts ms source = (fill, after) := by
  rw [withMonotonic] at made
  cases dated : zero.withTime ms with
  | error cause =>
    rw [dated] at made
    exact .inl (congrArg Prod.snd made).symm
  | ok fresh =>
    rw [dated] at made
    right
    generalize filled : MonotonicSource.fillMonotonic attempts ms source = fill at made ⊢
    obtain ⟨drawn, state⟩ := fill
    obtain ⟨rfl, rfl⟩ := Prod.mk.inj made
    refine ⟨drawn, ?_, rfl⟩
    rintro bytes rfl
    exact failed _ rfl

/-- A time that does not fit is reported before the source is asked. -/
theorem withMonotonic_of_late [MonotonicSource σ] (attempts : Nat) (ms : UInt64) (source : σ)
    (late : ms > maxTime) : withMonotonic attempts ms source = (.error (.bigTime ms), source) := by
  rw [withMonotonic, withTime, if_pos late]

/-- For a time that fits the error is that of the fill. -/
theorem withMonotonic_of_error [MonotonicSource σ] (attempts : Nat) (ms : UInt64)
    (source after : σ) (cause : Error) (fits : ¬ ms > maxTime)
    (made : withMonotonic attempts ms source = (.error cause, after)) :
    MonotonicSource.fillMonotonic attempts ms source = (.error cause, after) := by
  rw [withMonotonic, withTime, if_neg fits] at made
  dsimp only at made
  generalize MonotonicSource.fillMonotonic attempts ms source = fill at made ⊢
  obtain ⟨outcome, state⟩ := fill
  obtain ⟨delivered, rfl⟩ := Prod.mk.inj made
  cases outcome with
  | error found =>
    obtain rfl : found = cause := Outcome.error.inj delivered
    rfl
  | value bytes => cases delivered
  | crash text => cases delivered
  | unfinished => cases delivered

end Ulid

end SortableId
