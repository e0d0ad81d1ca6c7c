import Mathlib
import SortableId.Proofs.Command.Attempts

/-!
# Stamps of a run

In both modes and over any source, a run that goes on has read the clock once for each attempt, and
has made each identifier for the time that was read. So the timestamps that a successful run has
written are readings of its clock, in the order of the readings: those of the attempts that were not
made again.
-/

namespace SortableId

namespace Ulid

variable {σ : Type}

/-- Entropy bytes do not change the time. -/
theorem timestamp_of_map (dated id : Ulid) (filled : Outcome (Vector UInt8 10))
    (made : filled.map dated.withEntropyBytes = .value id) : id.timestamp = dated.timestamp := by
  cases filled with
  | value bytes =>
    obtain rfl := Outcome.value.inj made
    exact timestamp_withEntropyBytes dated bytes
  | error cause => cases made
  | crash text => cases made
  | unfinished => cases made

/-- However its entropy is made, a new identifier has the time asked for. -/
theorem timestamp_of_new (attempts : Nat) (ms : UInt64) (entropy : Entropy σ) (state : σ)
    (id : Ulid) (made : (new attempts ms entropy state).1 = .value id) : id.timestamp = ms := by
  rw [new] at made
  cases dated : zero.withTime ms with
  | error cause =>
    rw [dated] at made
    cases made
  | ok fresh =>
    rw [dated] at made
    have time : fresh.timestamp = ms := ((withTime_eq_ok_iff zero fresh ms).mp dated).1
    cases entropy with
    | none =>
      obtain rfl := Outcome.value.inj made
      exact time
    | random source => exact (timestamp_of_map fresh id _ made).trans time
    | monotonic source => exact (timestamp_of_map fresh id _ made).trans time

end Ulid

namespace Command

variable {σ : Type}

/-- What a run keeps as long as no attempt ends it. -/
structure Run.Timed (order : Generation) (clock : Clock) (run : Run σ) : Prop where
  /-- It counts its lines. -/
  lines : run.lines = linesOf run.log
  /-- It has read the clock once for each attempt. -/
  readings : run.readings = run.log.length
  /-- It writes no more lines than ordered. -/
  few : run.lines ≤ order.count
  /-- Each attempt was for the next reading. -/
  time : ∀ later attempt earlier, run.log = later ++ attempt :: earlier →
    attempt.time = clock earlier.length (linesOf earlier)
  /-- Each attempt made an identifier or overflowed. -/
  goesOn : ∀ attempt ∈ run.log, attempt.GoesOn
  /-- An identifier has the time that was read for it. -/
  stamp : ∀ attempt ∈ run.log, ∀ id, attempt.made? = some id → id.timestamp = attempt.time

namespace Run

variable {order : Generation} {clock : Clock} {run : Run σ}

/-- A run begins without attempts. -/
theorem Timed.start (order : Generation) (clock : Clock) (source : σ) :
    (Run.start order source).Timed order clock where
  lines := rfl
  readings := rfl
  few := Nat.zero_le order.count
  time := fun later attempt earlier split => absurd split.symm (by simp [Run.start])
  goesOn := fun attempt mem => absurd mem List.not_mem_nil
  stamp := fun attempt mem => absurd mem List.not_mem_nil

/-- One more attempt for the next reading keeps that, while a line is due. -/
theorem Timed.noted (timed : run.Timed order clock) (due : run.lines < order.count)
    (generator : Generator σ) (tried : Attempt)
    (time : tried.time = clock run.readings run.lines) (goes : tried.GoesOn)
    (stamp : ∀ id, tried.made? = some id → id.timestamp = tried.time) :
    (run.noted generator tried).Timed order clock where
  lines := noted_lines generator tried timed.lines
  readings := by
    have one := goes.counts
    have before := timed.readings
    dsimp only [Run.noted, Run.readings, List.length_cons] at before ⊢
    omega
  few := noted_few generator tried due
  time := forall_split_cons (by rw [time, timed.readings, timed.lines]) timed.time
  goesOn := List.forall_mem_cons.mpr ⟨goes, timed.goesOn⟩
  stamp := List.forall_mem_cons.mpr ⟨stamp, timed.stamp⟩

/-- The readings that attempts were for, with the attempts in the order that they were made. -/
theorem Timed.time_after (timed : run.Timed order clock) {before behind : List Attempt}
    {attempt : Attempt} (split : run.log.reverse = before ++ attempt :: behind) :
    attempt.time = clock before.length (linesOf before) := by
  have reading := timed.time behind.reverse attempt before.reverse (split_of_reverse split)
  rwa [List.length_reverse, linesOf_reverse] at reading

/-- The identifiers have the times that their attempts read. -/
theorem Timed.stamps (timed : run.Timed order clock) :
    run.written.map Ulid.timestamp =
      (run.log.reverse.filter fun attempt => attempt.made?.isSome).map Attempt.time := by
  apply stamps_of_tried
  intro attempt mem
  exact timed.stamp attempt (List.mem_reverse.mp mem)

/-- There is an identifier for each line. -/
theorem Timed.length_written (timed : run.Timed order clock) : run.written.length = run.lines := by
  rw [Run.written, ← linesOf, linesOf_reverse, timed.lines]

end Run

variable [ByteSource σ]

namespace Generation

/-- An attempt that a run goes on from is noted: it overflowed, or made an identifier for the time
that was read. -/
theorem attempt_noted (attempts : Nat) (order : Generation) (now : UInt64) (run after : Run σ)
    (goes : order.attempt attempts now run = (.value (), after)) :
    ∃ tried : Attempt, after = run.noted after.generator tried ∧ tried.time = now ∧ tried.GoesOn ∧
      ∀ id, tried.made? = some id → id.timestamp = now := by
  rw [attempt] at goes
  have stamp := Ulid.timestamp_of_new attempts now order.entropy run.generator
  generalize Ulid.new attempts now order.entropy run.generator = call at goes stamp
  obtain ⟨outcome, generator⟩ := call
  cases outcome with
  | value id =>
    obtain ⟨-, rfl⟩ := Prod.mk.inj goes
    refine ⟨⟨now, .value id⟩, rfl, rfl, .inl rfl, fun found same => ?_⟩
    obtain rfl : id = found := Option.some.inj same
    exact stamp id rfl
  | error cause =>
    dsimp only at goes
    by_cases overflow : order.monotonic ∧ cause = .monotonicOverflow
    · rw [if_pos overflow] at goes
      obtain ⟨-, rfl⟩ := Prod.mk.inj goes
      obtain ⟨-, rfl⟩ := overflow
      exact ⟨⟨now, .error .monotonicOverflow⟩, rfl, rfl, .inr rfl, fun id same => by cases same⟩
    · rw [if_neg overflow] at goes
      cases goes
  | crash text => cases goes
  | unfinished => cases goes

/-- A run that goes on to success has written all lines, with the times that were read. -/
theorem proceed_timed (attempts : Nat) (order : Generation) (clock : Clock) (fuel : Nat)
    (run : Run σ) (timed : run.Timed order clock)
    (success : (order.proceed attempts clock fuel run).1 = .value ()) :
    let result := (order.proceed attempts clock fuel run).2
    result.Timed order clock ∧ result.lines = order.count := by
  -- On the readings left: one is used if a line is due, and its attempt let the run go on.
  induction fuel generalizing run with
  | zero =>
    rw [proceed] at success ⊢
    dsimp only at success
    split at success
    · rename_i full
      exact ⟨timed, Nat.le_antisymm timed.few full⟩
    · cases success
  | succ fuel ih =>
    by_cases full : order.count ≤ run.lines
    · rw [proceed_of_full attempts order clock (fuel + 1) run full]
      exact ⟨timed, Nat.le_antisymm timed.few full⟩
    · have due := Nat.lt_of_not_le full
      rw [proceed_of_due attempts order clock fuel run due] at success ⊢
      generalize stepped : order.attempt attempts (clock run.readings run.lines) run = step
        at success ⊢
      obtain ⟨answer, after⟩ := step
      dsimp only at success ⊢
      by_cases goes : answer = .value ()
      · rw [if_pos goes] at success ⊢
        rw [goes] at stepped
        obtain ⟨tried, noted, time, goesOn, stamp⟩ :=
          attempt_noted attempts order _ run after stepped
        have next : after.Timed order clock := by
          rw [noted]
          exact timed.noted due after.generator tried time goesOn (time ▸ stamp)
        exact ih after next success
      · rw [if_neg goes] at success
        exact absurd success goes

end Generation

end Command

end SortableId
