import Mathlib
import SortableId.Proofs.Command.Attempts

/-!
# Monotonic runs

A monotonic run reads the clock again for the same line after an overflow, and after nothing else.
The generator remembers the last identifier of the log, so as long as the clock does not go back
each line is above all the ones before.
-/

namespace SortableId.Command

variable {σ : Type} [ByteSource σ]

namespace Attempt

/-- An attempt with a generator is sound. -/
theorem sound_of_withMonotonic (attempts : Nat) (now : UInt64) (generator : Generator σ) :
    Sound ⟨now, (Ulid.withMonotonic attempts now generator).1⟩ := by
  refine ⟨?_, fun late => ?_⟩
  · generalize made : Ulid.withMonotonic attempts now generator = call
    obtain ⟨outcome, after⟩ := call
    rintro id same
    cases outcome with
    | value found =>
      obtain rfl : found = id := Option.some.inj same
      exact (Ulid.withMonotonic_of_value attempts now generator after found made).1
    | error cause => exact nomatch same
    | crash text => exact nomatch same
    | unfinished => exact nomatch same
  · exact congrArg Prod.fst (Ulid.withMonotonic_of_late attempts now generator late)

/-- An attempt that makes an identifier has filled for its timestamp, and any other leaves the
memory alone. -/
theorem memory_of_withMonotonic (bounded : ByteSource.Bounded σ) (attempts : Nat) (now : UInt64)
    (generator : Generator σ) :
    let call := Ulid.withMonotonic attempts now generator
    (made? ⟨now, call.1⟩ = none ∧ call.2.toCounter = generator.toCounter) ∨
      ∃ id, made? ⟨now, call.1⟩ = some id ∧
        Generator.Filled id.timestamp generator call.2 id.entropyValue := by
  have cases := Generator.handedOut_cases bounded attempts now generator
  generalize Ulid.withMonotonic attempts now generator = call at cases
  obtain ⟨outcome, after⟩ := call
  cases outcome with
  | value found =>
    obtain ⟨nothing, -⟩ | ⟨id, given, filled⟩ := cases
    · exact nomatch nothing
    · obtain rfl : found = id := congrArg Prod.snd (Option.some.inj given)
      exact .inr ⟨found, rfl, filled⟩
  | error cause =>
    obtain ⟨-, same⟩ | ⟨id, given, -⟩ := cases
    · exact .inl ⟨rfl, same⟩
    · exact nomatch given
  | crash text =>
    obtain ⟨-, same⟩ | ⟨id, given, -⟩ := cases
    · exact .inl ⟨rfl, same⟩
    · exact nomatch given
  | unfinished =>
    obtain ⟨-, same⟩ | ⟨id, given, -⟩ := cases
    · exact .inl ⟨rfl, same⟩
    · exact nomatch given

end Attempt

namespace Run

variable {order : Generation} {clock : Clock} {run : Run σ}

/-- An identifier made for a time that is not before the last is above all identifiers of the
log. -/
theorem Kept.above (kept : run.Kept order clock) {after : Generator σ} {id : Ulid}
    (filled : Generator.Filled id.timestamp run.generator after id.entropyValue)
    (later : ∀ attempt ∈ run.log, attempt.time ≤ id.timestamp)
    (ordered : (run.log.map Attempt.time).Pairwise (· ≥ ·)) :
    ∀ other ∈ run.log.filterMap Attempt.made?, other.toNat < id.toNat := by
  have rising := kept.rising ordered
  have memory := kept.memory
  have stamped : ∀ other ∈ run.log.filterMap Attempt.made?, other.timestamp ≤ id.timestamp := by
    intro other among
    obtain ⟨attempt, member, made⟩ := List.mem_filterMap.mp among
    obtain ⟨before, behind, split⟩ := List.append_of_mem member
    rw [(kept.read before attempt behind split).stamp other made]
    exact later attempt member
  generalize run.log.filterMap Attempt.made? = written at rising memory stamped
  cases written with
  | nil => exact fun other among => nomatch among
  | cons last written =>
    have above : last.toNat < id.toNat := by
      rw [Ulid.toNat_fields last]
      exact filled.above_memory last.timestamp last.entropyValue memory
        (stamped last List.mem_cons_self)
    rw [List.forall_mem_cons]
    refine ⟨above, fun other among => ?_⟩
    exact Nat.lt_trans (List.rel_of_pairwise_cons rising among) above

/-- One more attempt for the next reading keeps all that. -/
theorem Kept.noted (kept : run.Kept order clock) {generator : Generator σ} {attempt : Attempt}
    (read : attempt.Read order clock run.log)
    (memory : (attempt.made? = none ∧ generator.toCounter = run.generator.toCounter) ∨
      ∃ id, attempt.made? = some id ∧
        Generator.Filled id.timestamp run.generator generator id.entropyValue) :
    (run.noted generator attempt).Kept order clock where
  lines := noted_lines generator attempt kept.lines
  overflows := by
    have sum : (attempt :: run.log).countP Attempt.overflowed =
        [attempt].countP Attempt.overflowed + run.log.countP Attempt.overflowed :=
      @List.countP_append _ _ [attempt] run.log
    rw [← kept.overflows, Nat.add_comm] at sum
    exact sum.symm
  few := noted_few generator attempt (kept.lines ▸ read.due)
  read := forall_split_cons read kept.read
  memory := by
    obtain ⟨nothing, same⟩ | ⟨id, made, filled⟩ := memory
    · rw [Run.noted, List.filterMap_cons_none nothing, ← kept.memory]
      exact congrArg Counter.last same
    · rw [Run.noted, List.filterMap_cons_some made]
      exact filled.recorded
  rising := by
    intro ordered
    rw [Run.noted, List.map_cons, List.pairwise_cons] at ordered
    obtain ⟨nothing, -⟩ | ⟨id, made, filled⟩ := memory
    · rw [Run.noted, List.filterMap_cons_none nothing]
      exact kept.rising ordered.2
    · rw [Run.noted, List.filterMap_cons_some made, List.pairwise_cons]
      refine ⟨kept.above filled (fun other member => ?_) ordered.2, kept.rising ordered.2⟩
      rw [read.stamp id made]
      exact ordered.1 other.time (List.mem_map_of_mem member)

end Run

namespace Generation

/-- A monotonic attempt notes what the generator gave and goes on or ends with it. -/
theorem attempt_eq (attempts : Nat) (order : Generation) (monotonic : order.monotonic = true)
    (now : UInt64) (run : Run σ) :
    order.attempt attempts now run =
      let call := Ulid.withMonotonic attempts now run.generator
      (Attempt.verdict ⟨now, call.1⟩, run.noted call.2 ⟨now, call.1⟩) := by
  rw [attempt, entropy_of_monotonic order monotonic, Ulid.new_monotonic]
  generalize Ulid.withMonotonic attempts now run.generator = call
  obtain ⟨outcome, generator⟩ := call
  cases outcome with
  | value id => rfl
  | error cause =>
    by_cases overflow : cause = .monotonicOverflow
    · subst overflow
      dsimp only
      rw [if_pos ⟨monotonic, rfl⟩]
      rfl
    · have other : Attempt.overflowed ⟨now, .error cause⟩ = false :=
        decide_eq_false fun same => overflow (Outcome.error.inj same)
      dsimp only
      rw [if_neg fun both => overflow both.2, Attempt.verdict, other, Run.noted,
        List.countP_singleton, other]
      rfl
  | crash text => rfl
  | unfinished => rfl

/-- An attempt for the next reading keeps what a run keeps, and lets the run go on or ends it. -/
theorem attempt_kept (bounded : ByteSource.Bounded σ) (attempts : Nat) (order : Generation)
    (monotonic : order.monotonic = true) (clock : Clock) (run : Run σ)
    (kept : run.Kept order clock) (goesOn : ∀ attempt ∈ run.log, attempt.GoesOn)
    (due : run.lines < order.count) :
    let step := order.attempt attempts (clock run.readings run.lines) run
    step.2.Kept order clock ∧ ∃ attempt,
      step.1 = attempt.verdict ∧ step.2.log = attempt :: run.log := by
  rw [attempt_eq attempts order monotonic]
  set now := clock run.readings run.lines with reading
  have memory := Attempt.memory_of_withMonotonic bounded attempts now run.generator
  have sound := Attempt.sound_of_withMonotonic attempts now run.generator
  have read : Attempt.Read order clock
      ⟨now, (Ulid.withMonotonic attempts now run.generator).1⟩ run.log :=
    { sound with
      time := by rw [reading, kept.readings goesOn, kept.lines]
      due := kept.lines ▸ due
      goesOn }
  exact ⟨kept.noted read memory, _, rfl, rfl⟩

/-- A run that goes on from another keeps what that kept, and ends in one of three ways. -/
theorem proceed_ends (bounded : ByteSource.Bounded σ) (attempts : Nat) (order : Generation)
    (monotonic : order.monotonic = true) (clock : Clock) (fuel : Nat) (run : Run σ)
    (kept : run.Kept order clock) (goesOn : ∀ attempt ∈ run.log, attempt.GoesOn) :
    let result := order.proceed attempts clock fuel run
    result.2.Kept order clock ∧ result.2.Ends order (run.log.length + fuel) result.1 := by
  induction fuel generalizing run with
  | zero =>
    rw [proceed]
    refine ⟨kept, ?_⟩
    split
    · rename_i full
      exact .full (Nat.le_antisymm kept.few full) goesOn
    · exact .short goesOn rfl
  | succ fuel ih =>
    by_cases full : order.count ≤ run.lines
    · rw [proceed_of_full attempts order clock (fuel + 1) run full]
      exact ⟨kept, .full (Nat.le_antisymm kept.few full) goesOn⟩
    · have due := Nat.lt_of_not_le full
      obtain ⟨keptAfter, tried, answer, log⟩ :=
        attempt_kept bounded attempts order monotonic clock run kept goesOn due
      rw [proceed_of_due attempts order clock fuel run due]
      dsimp only
      split
      · rename_i goes
        rw [answer, Attempt.verdict_eq_value_iff] at goes
        have rest := ih _ keptAfter (log ▸ List.forall_mem_cons.mpr ⟨goes, goesOn⟩)
        rwa [log, List.length_cons, Nat.add_assoc, Nat.add_comm 1 fuel] at rest
      · rename_i stops
        rw [answer, Attempt.verdict_eq_value_iff] at stops
        rw [answer, Attempt.verdict_of_stops stops]
        exact ⟨keptAfter, .failed tried run.log log stops⟩

/-- The same from the start. -/
theorem perform_ends (bounded : ByteSource.Bounded σ) (attempts : Nat) (order : Generation)
    (monotonic : order.monotonic = true) (clock : Clock) (fuel : Nat) (source : σ) :
    let result := order.perform attempts fuel clock source
    result.2.Kept order clock ∧ result.2.Ends order fuel result.1 := by
  have ends := proceed_ends bounded attempts order monotonic clock fuel _
    (Run.Kept.start order clock source) nofun
  have none : (Run.start order source).log.length + fuel = fuel := Nat.zero_add fuel
  rwa [none] at ends

/-- A run whose last attempt let it go on, while a line was due, makes another attempt with one more
reading. -/
theorem perform_goes_on (bounded : ByteSource.Bounded σ) (attempts : Nat) (order : Generation)
    (monotonic : order.monotonic = true) (clock : Clock) (fuel : Nat) (source : σ) :
    let run := (order.perform attempts fuel clock source).2
    ∀ attempt earlier, run.log = attempt :: earlier → attempt.GoesOn → run.lines < order.count →
      ∃ next, (order.perform attempts (fuel + 1) clock source).2.log = next :: run.log := by
  intro run attempt earlier log goes due
  rcases perform_succ attempts order clock fuel source with same | ⟨-, one⟩
  · -- A run that stays as it is has not used up the readings.
    have now := (perform_ends bounded attempts order monotonic clock fuel source).2
    have later := (perform_ends bounded attempts order monotonic clock (fuel + 1) source).2
    rw [same] at later
    have used := (now.of_due log goes due).2
    have more := (later.of_due log goes due).2
    omega
  · obtain ⟨next, noted⟩ := attempt_log attempts order (clock run.readings run.lines) run
    exact ⟨next, one ▸ noted⟩

/-- The error that ends a run at a time that fits was the answer to a read that the generator made
for that time, as the attempts before had left it. -/
theorem perform_error (attempts : Nat) (order : Generation) (monotonic : order.monotonic = true)
    (clock : Clock) (fuel : Nat) (source : σ) {time : UInt64} {cause : Error}
    {earlier : List Attempt}
    (log : (order.perform attempts fuel clock source).2.log = ⟨time, .error cause⟩ :: earlier)
    (fits : ¬ time > maxTime) (other : cause ≠ .monotonicOverflow) :
    ∃ asked ∈ (order.perform attempts earlier.length clock source).2.generator.reads attempts time,
      (ByteSource.fill asked.1 asked.2).1 = .error cause := by
  have last := perform_last attempts order clock fuel source log
  rw [← last, attempt_eq attempts order monotonic] at log
  set before := (order.perform attempts earlier.length clock source).2
  obtain ⟨reading, failed⟩ := Attempt.mk.inj (List.cons.inj log).1
  rw [reading] at failed
  have filled := Ulid.withMonotonic_of_error attempts time before.generator _ cause fits
    (Prod.ext failed rfl)
  rw [← Generator.fill_eq_error_iff attempts time before.generator other]
  exact congrArg Prod.fst filled

/-- A monotonic run, whatever its source does and its clock shows, as long as the clock does not go
back. Its lines are read strictly as the identifiers written, and increase. Each attempt is for the
next reading, and for the same line as the attempt before exactly if that overflowed; an overflow is
the last attempt only of a run that was given no more readings, and with one more it is followed by
another. A run that succeeds has written what was ordered, with one more reading for each overflow;
no run ends in an overflow; one that ends in another error has written the lines of the attempts
before that, and the error is that the time is too late or what a read was answered with that the
generator made for it, as those attempts had left it. -/
theorem monotonic_run (bounded : ByteSource.Bounded σ) (attempts fuel : Nat) (order : Generation)
    (monotonic : order.monotonic = true) (clock : Clock) (source : σ)
    (ordered : ((order.perform attempts fuel clock source).2.log.reverse.map
      Attempt.time).Pairwise (· ≤ ·)) :
    let ended := (order.perform attempts fuel clock source).1
    let run := (order.perform attempts fuel clock source).2
    run.output.map (Ulid.parse .strict) = run.written.map .ok ∧
    run.output.Pairwise (fun earlier later =>
      compare (Bytes.ofText earlier) (Bytes.ofText later) = .lt) ∧
    run.written.map Ulid.timestamp =
      (run.log.reverse.filter fun attempt => attempt.made?.isSome).map Attempt.time ∧
    (∀ before attempt behind, run.log.reverse = before ++ attempt :: behind →
      attempt.time = clock before.length (linesOf before) ∧
      (behind ≠ [] → (linesOf (before ++ [attempt]) = linesOf before ↔
        attempt.outcome = .error .monotonicOverflow)) ∧
      (behind = [] → attempt.outcome = .error .monotonicOverflow →
        ended = .unfinished ∧ run.log.length = fuel ∧
        ∃ next, (order.perform attempts (fuel + 1) clock source).2.log = next :: run.log)) ∧
    (ended = .value () → run.output.length = order.count ∧
      run.log.length = order.count + run.log.countP Attempt.overflowed) ∧
    ended ≠ .error .monotonicOverflow ∧
    (∀ attempt ∈ run.log, attempt.time > maxTime → ended = .error (.bigTime attempt.time)) ∧
    ∀ cause, ended = .error cause → ∃ before time,
      run.log.reverse = before ++ [⟨time, .error cause⟩] ∧
      run.output = (before.filterMap Attempt.made?).map Ulid.text ∧
      (time > maxTime ∧ cause = .bigTime time ∨
        ∃ asked ∈ (order.perform attempts before.length clock source).2.generator.reads attempts
          time, (ByteSource.fill asked.1 asked.2).1 = .error cause) := by
  intro ended run
  obtain ⟨kept, ends⟩ : run.Kept order clock ∧ run.Ends order fuel ended :=
    perform_ends bounded attempts order monotonic clock fuel source
  refine ⟨?_, kept.output_increases ordered, kept.stamps, ?_, ?_, ?_, kept.late ends, ?_⟩
  · rw [Run.output, List.map_map]
    exact List.map_congr_left fun id _ => Ulid.parse_text .strict id
  · intro before attempt behind split
    have read := kept.read_after split
    refine ⟨?_, fun followed => ?_, ?_⟩
    · rw [read.time, List.length_reverse, linesOf_reverse]
    · have goesOn := kept.goesOn_of_followed split followed
      rw [← goesOn.no_line_iff, linesOf, List.filterMap_append, List.length_append]
      exact Nat.add_eq_left
    · rintro rfl overflow
      have log : run.log = attempt :: before.reverse := by
        rw [← List.reverse_reverse run.log, split, List.reverse_append]
        rfl
      have due := kept.due_after_overflow log overflow
      have goes : attempt.GoesOn := .inr (decide_eq_true overflow)
      obtain ⟨unfinished, used⟩ := ends.of_due log goes due
      have next := perform_goes_on bounded attempts order monotonic clock fuel source
      exact ⟨unfinished, used, next attempt _ log goes due⟩
  · intro success
    obtain ⟨written, goesOn⟩ := Run.Ends.of_value (success ▸ ends)
    have lines : linesOf run.log = order.count := kept.lines.symm.trans written
    constructor
    · rw [Run.output, List.length_map, Run.written, ← linesOf, linesOf_reverse, lines]
    · rw [length_of_goesOn run.log goesOn, lines]
  · intro overflow
    exact (Run.Ends.of_error (overflow ▸ ends)).1 rfl
  · intro cause failure
    obtain ⟨other, time, earlier, log⟩ := Run.Ends.of_error (failure ▸ ends)
    have read := kept.read [] _ earlier log
    refine ⟨earlier.reverse, time, by rw [log, List.reverse_cons], ?_, ?_⟩
    · rw [Run.output, Run.written, log, List.reverse_cons, List.filterMap_append]
      exact congrArg _ (List.append_nil _)
    · by_cases late : time > maxTime
      · exact .inl ⟨late, Outcome.error.inj (read.late late)⟩
      · right
        rw [List.length_reverse]
        exact perform_error attempts order monotonic clock fuel source log late other

/-- Two lines from a source of ones, whose first value in a millisecond is the largest: the second
line overflows at the second reading and is written at the third. -/
theorem monotonic_run_over_ones :
    let order : Generation :=
      { count := 2, supply := .quick, monotonic := true, increment := 1, backoff := .spin }
    let result := order.perform 1 9 (Clock.stalled 5) (Repeated.mk 0xFF)
    result.1 = .value () ∧ result.2.log.reverse.map Attempt.overflowed = [false, true, false] ∧
      result.2.output.length = 2 ∧ result.2.log.length = 2 + 1 ∧
      result.2.output.Pairwise fun earlier later =>
        compare (Bytes.ofText earlier) (Bytes.ofText later) = .lt := by
  intro order
  dsimp only
  have times : (order.perform 1 9 (Clock.stalled 5) (Repeated.mk 0xFF)).2.log.reverse.map
      Attempt.time = [5, 5, 6] := by decide +kernel
  have success : (order.perform 1 9 (Clock.stalled 5) (Repeated.mk 0xFF)).1 = .value () := by
    decide +kernel
  have law := monotonic_run repeated_bounded 1 9 order rfl (Clock.stalled 5) (Repeated.mk 0xFF)
  rw [times] at law
  obtain ⟨-, increase, -, -, written, -⟩ := law (by decide)
  have once : (order.perform 1 9 (Clock.stalled 5) (Repeated.mk 0xFF)).2.log.countP
      Attempt.overflowed = 1 := by decide +kernel
  obtain ⟨lines, readings⟩ := written success
  have ordered : order.count = 2 := rfl
  rw [once, ordered] at readings
  exact ⟨success, by decide +kernel, lines, readings, increase⟩

end Generation

end SortableId.Command
