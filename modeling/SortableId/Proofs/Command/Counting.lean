import Mathlib
import SortableId.Proofs.OverZeros
import SortableId.Proofs.TextBytes
import SortableId.Proofs.Command.Attempts

/-!
# Runs over zeros

Over zeros every attempt makes its line as long as the times fit, so the clock is read once for each
line, whichever way it goes. What a run keeps is that in monotonic mode the number its generator
would hand out next for a time is the length of the stretch of that time that the log ends with. So
the entropy of a line counts the lines just before it with the same time, and without monotonic mode
it is zero.
-/

namespace SortableId.Command

/-- The time of a line when each reading before it made a line too. -/
def Clock.reading (clock : Clock) (line : Nat) : UInt64 := clock line line

/-- How many of the times before, the latest of them first, are the same without another one in
between. -/
def stretch (time : UInt64) (before : List UInt64) : Nat :=
  (before.takeWhile fun other => other = time).length

/-- The entropy of a line over zeros: the length of the stretch that it goes on with, if the lines
are to increase, and zero otherwise. -/
def Generation.tally (order : Generation) (clock : Clock) (line : Nat) : Nat :=
  if order.monotonic then
    stretch (clock.reading line) ((List.range line).reverse.map clock.reading)
  else 0

/-- One more time makes its own stretch longer and ends every other. -/
theorem stretch_cons (time last : UInt64) (before : List UInt64) :
    stretch time (last :: before) = if last = time then stretch last before + 1 else 0 := by
  rw [stretch, List.takeWhile_cons]
  by_cases same : last = time
  · rw [if_pos (decide_eq_true same), if_pos same, List.length_cons, same, stretch]
  · rw [if_neg (by simpa using same), if_neg same]
    rfl

/-- A stretch is no longer than all the times. -/
theorem stretch_le (time : UInt64) (before : List UInt64) : stretch time before ≤ before.length :=
  (List.takeWhile_sublist _).length_le

/-- What belongs to the lines, latest first, with one more line. -/
theorem cons_latest_first {α : Type} {belongs : Nat → α} {lines : Nat} {latest : α} {list : List α}
    (first : latest = belongs lines) (rest : list = (List.range lines).reverse.map belongs) :
    latest :: list = (List.range (lines + 1)).reverse.map belongs := by
  rw [first, rest, List.range_succ, List.reverse_append]
  rfl

/-- Turned round it is what belongs to the lines in order. -/
theorem reverse_latest_first {α : Type} (belongs : Nat → α) (lines : Nat) :
    ((List.range lines).reverse.map belongs).reverse = (List.range lines).map belongs := by
  rw [← List.map_reverse, List.reverse_reverse]

namespace Run

/-- What a run over zeros keeps as long as the times fit. -/
structure Counts (order : Generation) (clock : Clock) (run : Run Zeros) : Prop where
  /-- None of its attempts overflowed. -/
  overflows : run.overflows = 0
  /-- Each reading was for a line of its own. -/
  times : run.log.map Attempt.time = (List.range run.lines).reverse.map clock.reading
  /-- Each line has the time that was read for it. -/
  stamps : (run.log.filterMap Attempt.made?).map Ulid.timestamp =
    (List.range run.lines).reverse.map clock.reading
  /-- Its entropy counts the lines of its stretch. -/
  tallies : (run.log.filterMap Attempt.made?).map (fun id => id.entropyValue.toNat) =
    (List.range run.lines).reverse.map (order.tally clock)
  /-- What comes next for a time counts the stretch that the log ends with. -/
  memory : order.monotonic = true →
    ∀ time, run.generator.following time = stretch time (run.log.map Attempt.time)

variable {order : Generation} {clock : Clock} {run : Run Zeros}

/-- A run begins with nothing counted. -/
theorem Counts.start (order : Generation) (clock : Clock) :
    (Run.start order Zeros.mk).Counts order clock where
  overflows := rfl
  times := rfl
  stamps := rfl
  tallies := rfl
  memory := fun _ _ => rfl

/-- So far it has read the clock once for each line. -/
theorem Counts.readings (counts : run.Counts order clock) :
    clock run.readings run.lines = clock.reading run.lines := by
  rw [Run.readings, counts.overflows, Nat.add_zero, Clock.reading]

/-- What comes next for the reading of the next line is its tally. -/
theorem Counts.following (counts : run.Counts order clock) (monotonic : order.monotonic = true) :
    run.generator.following (clock.reading run.lines) = order.tally clock run.lines := by
  rw [counts.memory monotonic, counts.times, Generation.tally, if_pos monotonic]

/-- One more line with the next reading and its tally keeps all that. -/
theorem Counts.noted (counts : run.Counts order clock) {generator : Generator Zeros} {id : Ulid}
    (stamp : id.timestamp = clock.reading run.lines)
    (number : id.entropyValue.toNat = order.tally clock run.lines)
    (memory : order.monotonic = true → ∀ time, generator.following time =
      if clock.reading run.lines = time then order.tally clock run.lines + 1 else 0) :
    (run.noted generator ⟨clock.reading run.lines, .value id⟩).Counts order clock where
  overflows := counts.overflows
  times := cons_latest_first rfl counts.times
  stamps := cons_latest_first stamp counts.stamps
  tallies := cons_latest_first number counts.tallies
  memory := by
    intro monotonic time
    have ends := counts.memory monotonic (clock.reading run.lines)
    rw [counts.following monotonic] at ends
    rw [Run.noted, List.map_cons, stretch_cons, ← ends]
    exact memory monotonic time

/-- What belongs to the identifiers of a run, in the order that they were written. -/
theorem map_written {σ α : Type} (run : Run σ) (belongs : Ulid → α) (expected : Nat → α)
    (latest : (run.log.filterMap Attempt.made?).map belongs =
      (List.range run.lines).reverse.map expected) :
    run.written.map belongs = (List.range run.lines).map expected := by
  rw [Run.written, List.filterMap_reverse, List.map_reverse, latest, reverse_latest_first]

end Run

namespace Generation

/-- Over zeros the next identifier of an order has the reading and its tally, and the generator
counts on from it. -/
theorem new_counts (attempts : Nat) (order : Generation) (clock : Clock) (run : Run Zeros)
    (counts : run.Counts order clock) (fits : clock.reading run.lines ≤ maxTime)
    (room : order.tally clock run.lines < 2 ^ 80) :
    ∃ id after,
      Ulid.new attempts (clock.reading run.lines) order.entropy run.generator =
        (.value id, after) ∧
      id.timestamp = clock.reading run.lines ∧
      id.entropyValue.toNat = order.tally clock run.lines ∧
      (order.monotonic = true → ∀ time, after.following time =
        if clock.reading run.lines = time then order.tally clock run.lines + 1 else 0) := by
  cases mode : order.monotonic with
  | true =>
    have next := counts.following mode
    rw [entropy_of_monotonic order mode, Ulid.new_monotonic, ← next]
    obtain ⟨id, after, made, stamp, number, memory⟩ :=
      Ulid.withMonotonic_counts attempts (clock.reading run.lines) run.generator fits (next ▸ room)
    exact ⟨id, after, made, stamp, number, fun _ => memory⟩
  | false =>
    have choice : order.entropy = (.random inferInstance : Entropy (Generator Zeros)) := by
      rw [entropy, mode]
      rfl
    have none : order.tally clock run.lines = 0 := by
      rw [tally, mode]
      rfl
    rw [choice, Ulid.new_random, none]
    obtain ⟨id, made, stamp, number⟩ :=
      Ulid.withRandom_over_zeros (clock.reading run.lines) run.generator fits
    exact ⟨id, run.generator, made, stamp, number, fun other => absurd other Bool.false_ne_true⟩

/-- A tally is no larger than the number of lines before. -/
theorem tally_le (order : Generation) (clock : Clock) (line : Nat) :
    order.tally clock line ≤ line := by
  rw [tally]
  split
  · have most := stretch_le (clock.reading line) ((List.range line).reverse.map clock.reading)
    rwa [List.length_map, List.length_reverse, List.length_range] at most
  · exact Nat.zero_le line

/-- Over zeros an attempt for a reading that fits writes one line, and the run counts on. -/
theorem attempt_counts (attempts : Nat) (order : Generation) (clock : Clock) (run : Run Zeros)
    (counts : run.Counts order clock) (fits : clock.reading run.lines ≤ maxTime)
    (room : run.lines < 2 ^ 80) :
    let step := order.attempt attempts (clock run.readings run.lines) run
    step.1 = .value () ∧ step.2.lines = run.lines + 1 ∧ step.2.Counts order clock := by
  have small := Nat.lt_of_le_of_lt (order.tally_le clock run.lines) room
  obtain ⟨id, after, made, stamp, number, memory⟩ :=
    new_counts attempts order clock run counts fits small
  rw [counts.readings, attempt, made]
  exact ⟨rfl, rfl, counts.noted stamp number memory⟩

/-- Over zeros a run with enough readings goes on to write all its lines. -/
theorem proceed_counts (attempts : Nat) (order : Generation) (clock : Clock) (fuel : Nat)
    (run : Run Zeros) (counts : run.Counts order clock) (begun : run.lines ≤ order.count)
    (enough : order.count ≤ run.lines + fuel) (few : order.count ≤ 2 ^ 80)
    (fits : ∀ line < order.count, clock.reading line ≤ maxTime) :
    let result := order.proceed attempts clock fuel run
    result.1 = .value () ∧ result.2.lines = order.count ∧ result.2.Counts order clock := by
  -- On the readings left: each of them is used for one line, so they do not run out before the
  -- lines do.
  induction fuel generalizing run with
  | zero =>
    have full : order.count ≤ run.lines := enough
    rw [proceed_of_full attempts order clock 0 run full]
    exact ⟨rfl, Nat.le_antisymm begun full, counts⟩
  | succ fuel ih =>
    by_cases full : order.count ≤ run.lines
    · rw [proceed_of_full attempts order clock (fuel + 1) run full]
      exact ⟨rfl, Nat.le_antisymm begun full, counts⟩
    · have due := Nat.lt_of_not_le full
      obtain ⟨goes, lines, counted⟩ :=
        attempt_counts attempts order clock run counts (fits run.lines due) (by omega)
      rw [proceed_of_due attempts order clock fuel run due]
      dsimp only
      rw [if_pos goes]
      exact ih _ counted (by omega) (by omega)

/-- A run over zeros counts. With times that fit, which may go back, and enough readings for its
lines, of which `2 ^ 80` are more than a count of 64 bits can order, it succeeds and reads the clock
once for each line, whatever the bound on increments. The lines are read strictly as the identifiers
written; each has the time that was read for it, and its entropy is the number of lines just before
it with the same time if the run is monotonic, and zero otherwise. -/
theorem zeros_count (attempts fuel : Nat) (order : Generation) (clock : Clock)
    (enough : order.count ≤ fuel) (few : order.count ≤ 2 ^ 80)
    (fits : ∀ line < order.count, clock.reading line ≤ maxTime) :
    let ended := (order.perform attempts fuel clock Zeros.mk).1
    let run := (order.perform attempts fuel clock Zeros.mk).2
    ended = .value () ∧ run.log.length = order.count ∧
      run.log.reverse.map Attempt.time = (List.range order.count).map clock.reading ∧
      run.output.map (Ulid.parse .strict) = run.written.map .ok ∧
      run.written.map Ulid.timestamp = (List.range order.count).map clock.reading ∧
      run.written.map (fun id => id.entropyValue.toNat) =
        (List.range order.count).map (order.tally clock) := by
  intro ended run
  have start := Run.Counts.start order clock
  obtain ⟨success, lines, counts⟩ : ended = .value () ∧ run.lines = order.count ∧
      run.Counts order clock :=
    proceed_counts attempts order clock fuel _ start (Nat.zero_le _) (by
      rw [Run.start, Nat.zero_add]
      exact enough) few fits
  have times : run.log.reverse.map Attempt.time = (List.range order.count).map clock.reading := by
    rw [List.map_reverse, counts.times, reverse_latest_first, lines]
  refine ⟨success, ?_, times, ?_, ?_, ?_⟩
  · have lengths := congrArg List.length times
    rwa [List.length_map, List.length_reverse, List.length_map, List.length_range] at lengths
  · rw [Run.output, List.map_map]
    exact List.map_congr_left fun id _ => Ulid.parse_text .strict id
  · rw [run.map_written _ _ counts.stamps, lines]
  · rw [run.map_written _ _ counts.tallies, lines]

/-- Two lines in one millisecond, one before it and two more in it, with a large bound. -/
theorem zeros_count_back_and_forth :
    let order : Generation :=
      { count := 5, supply := .zero, monotonic := true, increment := 300, backoff := .spin }
    let result := order.perform 0 5 (Clock.listed #[7, 7, 6, 7, 7]) Zeros.mk
    result.1 = .value () ∧ result.2.log.length = 5 ∧
      result.2.written.map Ulid.timestamp = [7, 7, 6, 7, 7] ∧
      result.2.written.map (fun id => id.entropyValue.toNat) = [0, 1, 0, 0, 1] := by
  intro order
  dsimp only
  obtain ⟨success, readings, -, -, stamps, numbers⟩ :=
    zeros_count 0 5 order (Clock.listed #[7, 7, 6, 7, 7]) (by decide) (by decide) (by decide)
  exact ⟨success, readings, stamps, numbers⟩

end Generation

end SortableId.Command
