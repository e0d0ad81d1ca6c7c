import Mathlib
import SortableId.Instant

/-!
# Milliseconds of an instant

An instant is a whole number of nanoseconds from the start of 1970, `Instant.toNanos`, and instants
are ordered by their seconds and then their nanoseconds. Its milliseconds are the floor of that
number, cut off at zero and at the largest number of 64 bits, so they never go back as time goes on.
The instant of a number of milliseconds has exactly these, and where nothing was cut off it is less
than a millisecond before the instant that they were taken of.
-/

namespace SortableId.Instant

/-- Instants are ordered by their seconds, then by their nanoseconds. -/
theorem toNanos_le_iff (early late : Instant) :
    early.toNanos ≤ late.toNanos ↔
      early.seconds < late.seconds ∨
        early.seconds = late.seconds ∧ early.nanos ≤ late.nanos := by
  have earlyNanos := early.nanos.isLt
  have lateNanos := late.nanos.isLt
  rw [Int64.lt_iff_toInt_lt, ← Int64.toInt_inj, Fin.le_def]
  simp only [toNanos]
  omega

/-- The seconds are negative exactly before 1970. -/
theorem seconds_neg_iff (instant : Instant) : instant.seconds < 0 ↔ instant.toNanos < 0 := by
  have nanos := instant.nanos.isLt
  rw [Int64.lt_iff_toInt_lt, Int64.toInt_zero]
  simp only [toNanos]
  omega

/-- Milliseconds are the floor of the nanoseconds, cut off at zero and at the largest number of
64 bits. -/
theorem toNat_toMillis (instant : Instant) :
    (instant.toMillis.toNat : Int) = max 0 (min (instant.toNanos / 1000000) (2 ^ 64 - 1)) := by
  have nanos := instant.nanos.isLt
  have sign := seconds_neg_iff instant
  by_cases before : instant.seconds < 0
  · have negative := sign.mp before
    rw [toMillis, if_pos before, UInt64.toNat_zero]
    omega
  · have positive : 0 ≤ instant.toNanos := Int.not_lt.mp (mt sign.mpr before)
    -- From 1970 on the seconds are a natural number, and the floor is taken of the nanoseconds
    -- alone.
    have floor : ((instant.seconds.toInt.toNat * 1000 + instant.nanos.val / 1000000 : Nat) : Int) =
        instant.toNanos / 1000000 := by
      simp only [toNanos] at positive ⊢
      omega
    rw [toMillis, if_neg before, ← floor]
    dsimp only
    by_cases small :
        instant.seconds.toInt.toNat * 1000 + instant.nanos.val / 1000000 < UInt64.size
    · rw [if_pos small, UInt64.toNat_ofNat_of_lt' small]
      simp only [UInt64.size] at small
      omega
    · rw [if_neg small, UInt64.toNat_ofNat_of_lt' (by decide)]
      simp only [UInt64.size] at small ⊢
      omega

/-- Milliseconds as an instant are as many nanoseconds, a million times over. -/
theorem toNanos_ofMillis (ms : UInt64) : (ofMillis ms).toNanos = ms.toNat * 1000000 := by
  have range := ms.toNat_lt
  have seconds : (Int64.ofNat (ms.toNat / 1000)).toInt = (ms.toNat / 1000 : Nat) :=
    Int64.toInt_ofNat_of_lt (by omega)
  simp only [toNanos, ofMillis, seconds]
  omega

/-- A later instant does not have fewer milliseconds. -/
theorem toMillis_mono (early late : Instant) (order : early.toNanos ≤ late.toNanos) :
    early.toMillis ≤ late.toMillis := by
  have first := toNat_toMillis early
  have second := toNat_toMillis late
  have floors : early.toNanos / 1000000 ≤ late.toNanos / 1000000 :=
    Int.ediv_le_ediv (by decide) order
  rw [UInt64.le_iff_toNat_le]
  omega

/-- Milliseconds are those of their instant. -/
theorem toMillis_ofMillis (ms : UInt64) : (ofMillis ms).toMillis = ms := by
  have range := ms.toNat_lt
  have millis := toNat_toMillis (ofMillis ms)
  rw [toNanos_ofMillis] at millis
  apply UInt64.toNat_inj.mp
  omega

/-- The instant of the milliseconds of another is less than one before it, when nothing was cut
off. -/
theorem ofMillis_toMillis (instant : Instant) (since : 0 ≤ instant.toNanos)
    (fits : instant.toNanos / 1000000 ≤ 2 ^ 64 - 1) :
    (ofMillis instant.toMillis).toNanos ≤ instant.toNanos ∧
      instant.toNanos - (ofMillis instant.toMillis).toNanos < 1000000 := by
  have millis := toNat_toMillis instant
  rw [toNanos_ofMillis]
  omega

/-- The milliseconds of an instant are the floor of its nanoseconds from 1970, zero before that and
the largest number of 64 bits where the floor does not fit. They are monotone in the order of
instants, by seconds and then by nanoseconds. The instant of a number of milliseconds is that many
after the start of 1970 and has these milliseconds again; and for an instant from 1970 on whose
milliseconds fit, the instant of them is no later and less than a millisecond earlier. -/
theorem milliseconds_saturate :
    (∀ instant : Instant,
      (instant.toMillis.toNat : Int) = max 0 (min (instant.toNanos / 1000000) (2 ^ 64 - 1))) ∧
    (∀ early late : Instant,
      (early.toNanos ≤ late.toNanos ↔
        early.seconds < late.seconds ∨
          early.seconds = late.seconds ∧ early.nanos ≤ late.nanos) ∧
      (early.toNanos ≤ late.toNanos → early.toMillis ≤ late.toMillis)) ∧
    (∀ ms, (ofMillis ms).toNanos = ms.toNat * 1000000 ∧ (ofMillis ms).toMillis = ms) ∧
    ∀ instant : Instant, 0 ≤ instant.toNanos → instant.toNanos / 1000000 ≤ 2 ^ 64 - 1 →
      (ofMillis instant.toMillis).toNanos ≤ instant.toNanos ∧
        instant.toNanos - (ofMillis instant.toMillis).toNanos < 1000000 :=
  ⟨toNat_toMillis, fun early late => ⟨toNanos_le_iff early late, toMillis_mono early late⟩,
    fun ms => ⟨toNanos_ofMillis ms, toMillis_ofMillis ms⟩, ofMillis_toMillis⟩

end SortableId.Instant
