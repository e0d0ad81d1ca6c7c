import Mathlib
import SortableId.Proofs.Fill

/-!
# Generators over zeros

The source of zeros never fails and answers every bounded request with zero, so a generator over it
counts: a fill for a new millisecond delivers zero, and every further one within the millisecond
delivers one more, whatever the bound on increments, until 80 bits are used up.
-/

namespace SortableId

/-- Over zeros an increment is 1. -/
theorem Increment.draw_over_zeros (attempts : Nat) (bound : UInt64) (source : Zeros) :
    (draw attempts bound).run source = (.value 1, source) := by
  rw [draw]
  split <;> rfl

namespace Counter

/-- The number that comes next for a millisecond when counting: one more than the last of the same
millisecond, and zero for any other. -/
def following (ms : UInt64) (counter : Counter) : Nat :=
  match counter.last with
  | some (tick, value) => if tick = ms then value.toNat + 1 else 0
  | none => 0

/-- In the same millisecond it is one more. -/
theorem following_of_same (ms : UInt64) (counter : Counter) (last : UInt80)
    (memory : counter.last = some (ms, last)) : counter.following ms = last.toNat + 1 := by
  rw [following, memory]
  exact if_pos rfl

/-- For any other millisecond it is zero. -/
theorem following_of_other (ms : UInt64) (counter : Counter)
    (other : ∀ last, counter.last ≠ some (ms, last)) : counter.following ms = 0 := by
  rw [following]
  split
  · rename_i tick last memory
    have apart : tick ≠ ms := by
      rintro rfl
      exact other last memory
    exact if_neg apart
  · rfl

end Counter

namespace Generator

/-- Over zeros a fill for a millisecond that is not remembered delivers zeros. -/
theorem fill_fresh_over_zeros (attempts : Nat) (ms : UInt64) (generator : Generator Zeros)
    (other : ∀ last, generator.last ≠ some (ms, last)) :
    generator.fill attempts ms =
      (.value UInt80.zero.toBytes, ⟨⟨generator.bound, some (ms, .zero)⟩, generator.source⟩) := by
  rw [fill_eq, Counter.next_of_other attempts ms _ other]
  rfl

/-- Over zeros a fill for the millisecond that is remembered delivers one more, unless that needs
more than 80 bits. -/
theorem fill_again_over_zeros (attempts : Nat) (ms : UInt64) (generator : Generator Zeros)
    (last : UInt80) (memory : generator.last = some (ms, last)) :
    generator.fill attempts ms =
      (last.checkedAdd 1).elim (.error .monotonicOverflow, generator) fun sum =>
        (.value sum.toBytes, ⟨⟨generator.bound, some (ms, sum)⟩, generator.source⟩) := by
  rw [fill_eq, Counter.next_of_same attempts ms _ last memory, Counter.advance,
    Draws.run_bind _ _ _ _ _ (Increment.draw_over_zeros attempts _ _)]
  cases last.checkedAdd 1 with
  | none => rfl
  | some sum => rfl

/-- Over zeros a fill does not crash, and leaves its millisecond remembered. -/
theorem fill_over_zeros (attempts : Nat) (ms : UInt64) (generator : Generator Zeros) :
    (generator.fill attempts ms).1.isCrash = false ∧
      ∃ last, (generator.fill attempts ms).2.last = some (ms, last) := by
  by_cases remembered : ∃ last, generator.last = some (ms, last)
  · obtain ⟨last, memory⟩ := remembered
    rw [fill_again_over_zeros attempts ms generator last memory]
    cases last.checkedAdd 1 with
    | none => exact ⟨rfl, last, memory⟩
    | some sum => exact ⟨rfl, sum, rfl⟩
  · rw [fill_fresh_over_zeros attempts ms generator fun last memory => remembered ⟨last, memory⟩]
    exact ⟨rfl, .zero, rfl⟩

/-- Over zeros a fill delivers and remembers the number that comes next, if that has 80 bits. -/
theorem fill_counts (attempts : Nat) (ms : UInt64) (generator : Generator Zeros)
    (room : generator.following ms < 2 ^ 80) :
    ∃ value : UInt80, value.toNat = generator.following ms ∧
      generator.fill attempts ms =
        (.value value.toBytes, ⟨⟨generator.bound, some (ms, value)⟩, generator.source⟩) := by
  by_cases remembered : ∃ last, generator.last = some (ms, last)
  · obtain ⟨last, memory⟩ := remembered
    have next := generator.following_of_same ms last memory
    obtain ⟨sum, total⟩ := UInt80.exists_toNat _ room
    have added : last.checkedAdd 1 = some sum :=
      (UInt80.checkedAdd_eq_some_iff last sum 1).mpr (total.trans next)
    refine ⟨sum, total, ?_⟩
    rw [fill_again_over_zeros attempts ms generator last memory, added]
    rfl
  · have other : ∀ last, generator.last ≠ some (ms, last) :=
      fun last memory => remembered ⟨last, memory⟩
    exact ⟨.zero, (generator.following_of_other ms other).symm,
      fill_fresh_over_zeros attempts ms generator other⟩

end Generator

namespace Ulid

/-- Over zeros an identifier with monotonic entropy has the number that comes next, and the
generator counts on from it. -/
theorem withMonotonic_counts (attempts : Nat) (ms : UInt64) (generator : Generator Zeros)
    (fits : ms ≤ maxTime) (room : generator.following ms < 2 ^ 80) :
    ∃ id after, withMonotonic attempts ms generator = (.value id, after) ∧ id.timestamp = ms ∧
      id.entropyValue.toNat = generator.following ms ∧
      ∀ other, after.following other = if ms = other then generator.following ms + 1 else 0 := by
  obtain ⟨value, number, filled⟩ := generator.fill_counts attempts ms room
  obtain ⟨fresh, dated⟩ := exists_withTime zero ms fits
  have time := ((withTime_eq_ok_iff zero fresh ms).mp dated).1
  refine ⟨fresh.withEntropyBytes value.toBytes,
    ⟨⟨generator.bound, some (ms, value)⟩, generator.source⟩, ?_, ?_, ?_, fun other => ?_⟩
  · rw [withMonotonic, dated]
    exact congrArg (fun fill => (fill.1.map fresh.withEntropyBytes, fill.2)) filled
  · rw [timestamp_withEntropyBytes, time]
  · rw [entropyValue_withEntropyBytes, number]
  · rw [← number]
    rfl

/-- Over zeros an identifier with plain bytes has no entropy. -/
theorem withRandom_over_zeros (ms : UInt64) (generator : Generator Zeros) (fits : ms ≤ maxTime) :
    ∃ id, withRandom ms generator = (.value id, generator) ∧ id.timestamp = ms ∧
      id.entropyValue.toNat = 0 := by
  obtain ⟨fresh, dated⟩ := exists_withTime zero ms fits
  have time := ((withTime_eq_ok_iff zero fresh ms).mp dated).1
  refine ⟨fresh.withEntropyBytes UInt80.zero.toBytes, ?_, ?_, ?_⟩
  · rw [withRandom, dated]
    rfl
  · rw [timestamp_withEntropyBytes, time]
  · rw [entropyValue_withEntropyBytes]
    rfl

end Ulid

end SortableId
