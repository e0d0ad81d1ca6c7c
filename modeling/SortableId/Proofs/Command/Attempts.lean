import Mathlib
import SortableId.Command.Run
import SortableId.Proofs.Increasing

/-!
# The attempts of a run

What a run keeps is about its log: which reading each attempt was for, and that another one follows
exactly if its outcome lets the run go on. A run that is given one more reading is the same run, or
the same with one more attempt at the end; so the last attempt of a run can be told apart from those
before it.
-/

namespace SortableId.Command

variable {σ : Type}

/-- How many lines some attempts wrote. -/
def linesOf (tried : List Attempt) : Nat := (tried.filterMap Attempt.made?).length

namespace Attempt

/-- Whether the entropy of the millisecond was used up. -/
def overflowed (attempt : Attempt) : Bool := attempt.outcome = .error .monotonicOverflow

/-- An attempt that does not end a run: it made an identifier or overflowed. -/
def GoesOn (attempt : Attempt) : Prop := attempt.made?.isSome ∨ attempt.overflowed

/-- What an attempt does to a run: all but an overflow or an identifier ends it. -/
def verdict (attempt : Attempt) : Outcome Unit :=
  if attempt.overflowed then .value () else attempt.outcome.map fun _ => ()

/-- What an attempt with a generator can come to. -/
structure Sound (attempt : Attempt) : Prop where
  /-- An identifier has the time that was read. -/
  stamp : ∀ id, attempt.made? = some id → id.timestamp = attempt.time
  /-- A time that does not fit is reported. -/
  late : attempt.time > maxTime → attempt.outcome = .error (.bigTime attempt.time)

/-- An attempt for the next reading of a clock, after others that let the run go on. -/
structure Read (order : Generation) (clock : Clock) (attempt : Attempt) (earlier : List Attempt) :
    Prop extends Sound attempt where
  /-- It is for the reading that is next. -/
  time : attempt.time = clock earlier.length (linesOf earlier)
  /-- A line is due. -/
  due : linesOf earlier < order.count
  /-- None of those before ended the run. -/
  goesOn : ∀ other ∈ earlier, other.GoesOn

/-- An attempt that lets a run go on is one line or one overflow. -/
theorem GoesOn.counts {attempt : Attempt} (goesOn : attempt.GoesOn) :
    linesOf [attempt] + [attempt].countP overflowed = 1 := by
  obtain ⟨time, outcome⟩ := attempt
  cases outcome with
  | value id => rfl
  | error cause =>
    have overflow : overflowed ⟨time, .error cause⟩ = true := goesOn.resolve_left nofun
    rw [List.countP_singleton, overflow]
    rfl
  | crash text => exact absurd goesOn (by simp [GoesOn, made?, overflowed])
  | unfinished => exact absurd goesOn (by simp [GoesOn, made?, overflowed])

/-- An attempt that lets a run go on writes no line exactly if it overflowed. -/
theorem GoesOn.no_line_iff {attempt : Attempt} (goesOn : attempt.GoesOn) :
    linesOf [attempt] = 0 ↔ attempt.outcome = .error .monotonicOverflow := by
  have one := goesOn.counts
  rw [List.countP_singleton] at one
  rw [← @decide_eq_true_iff (attempt.outcome = _), ← overflowed]
  split at one
  · rename_i overflow
    exact iff_of_true (by omega) overflow
  · rename_i other
    exact iff_of_false (by omega) other

/-- A run goes on after exactly the attempts that let it. -/
theorem verdict_eq_value_iff (attempt : Attempt) :
    attempt.verdict = .value () ↔ attempt.GoesOn := by
  obtain ⟨time, outcome⟩ := attempt
  cases outcome with
  | value id => exact iff_of_true rfl (.inl rfl)
  | error cause => simp [verdict, GoesOn, made?, overflowed, Outcome.map, Outcome.bind]
  | crash text => simp [verdict, GoesOn, made?, overflowed, Outcome.map, Outcome.bind]
  | unfinished => simp [verdict, GoesOn, made?, overflowed, Outcome.map, Outcome.bind]

/-- Any other attempt ends the run as it ended. -/
theorem verdict_of_stops {attempt : Attempt} (stops : ¬ attempt.GoesOn) :
    attempt.verdict = (attempt.outcome.map fun _ => ()) := by
  rw [verdict, if_neg fun overflow => stops (.inr overflow)]

end Attempt

/-- The lines of one more attempt. -/
theorem linesOf_cons (attempt : Attempt) (tried : List Attempt) :
    linesOf (attempt :: tried) = linesOf [attempt] + linesOf tried := by
  rw [linesOf, linesOf, linesOf, ← List.length_append, ← List.filterMap_append]
  rfl

/-- An attempt writes one line or none. -/
theorem linesOf_singleton_le (attempt : Attempt) : linesOf [attempt] ≤ 1 :=
  List.length_filterMap_le _ _

/-- The lines do not depend on the side that attempts are listed from. -/
theorem linesOf_reverse (tried : List Attempt) : linesOf tried.reverse = linesOf tried := by
  rw [linesOf, List.filterMap_reverse, List.length_reverse, linesOf]

/-- Attempts that let a run go on are its lines and its overflows. -/
theorem length_of_goesOn (tried : List Attempt) (goesOn : ∀ attempt ∈ tried, attempt.GoesOn) :
    tried.length = linesOf tried + tried.countP Attempt.overflowed := by
  induction tried with
  | nil => rfl
  | cons attempt tried ih =>
    obtain ⟨first, rest⟩ := List.forall_mem_cons.mp goesOn
    have one := first.counts
    have others := ih rest
    rw [linesOf_cons, List.length_cons]
    rw [List.countP_cons, List.countP_nil] at one
    rw [List.countP_cons]
    omega

/-- What holds of the attempts of a log with those before them, and of one more with all of these,
holds of the longer log. -/
theorem forall_split_cons {property : Attempt → List Attempt → Prop} {last : Attempt}
    {log : List Attempt} (first : property last log)
    (rest : ∀ later attempt earlier, log = later ++ attempt :: earlier → property attempt earlier) :
    ∀ later attempt earlier, last :: log = later ++ attempt :: earlier →
      property attempt earlier := by
  intro later attempt earlier split
  obtain ⟨rfl, same⟩ | ⟨later, rfl, inside⟩ := List.cons_eq_append_iff.mp split
  · obtain ⟨rfl, rfl⟩ := List.cons.inj same
    exact first
  · exact rest later attempt earlier inside

/-- An attempt of a log, found from the other side. -/
theorem split_of_reverse {log before behind : List Attempt} {attempt : Attempt}
    (split : log.reverse = before ++ attempt :: behind) :
    log = behind.reverse ++ attempt :: before.reverse := by
  rw [← List.reverse_reverse log, split]
  simp

/-- Identifiers that have the times of their attempts have them in order. -/
theorem stamps_of_tried (tried : List Attempt)
    (stamp : ∀ attempt ∈ tried, ∀ id, attempt.made? = some id → id.timestamp = attempt.time) :
    (tried.filterMap Attempt.made?).map Ulid.timestamp =
      (tried.filter fun attempt => attempt.made?.isSome).map Attempt.time := by
  induction tried with
  | nil => rfl
  | cons attempt tried ih =>
    obtain ⟨first, rest⟩ := List.forall_mem_cons.mp stamp
    cases made : attempt.made? with
    | none =>
      rw [List.filterMap_cons_none made, List.filter_cons_of_neg (by simp [made])]
      exact ih rest
    | some id =>
      rw [List.filterMap_cons_some made, List.filter_cons_of_pos (by simp [made]), List.map_cons,
        List.map_cons, first id made, ih rest]

namespace Run

/-- A run after one more attempt. -/
def noted (generator : Generator σ) (attempt : Attempt) (run : Run σ) : Run σ where
  generator
  log := attempt :: run.log
  lines := run.lines + linesOf [attempt]
  overflows := run.overflows + [attempt].countP Attempt.overflowed

/-- It still counts its lines. -/
theorem noted_lines {run : Run σ} (generator : Generator σ) (attempt : Attempt)
    (lines : run.lines = linesOf run.log) :
    (run.noted generator attempt).lines = linesOf (run.noted generator attempt).log := by
  have sum := linesOf_cons attempt run.log
  rw [← lines, Nat.add_comm] at sum
  exact sum.symm

/-- It has no more lines than ordered if one was due. -/
theorem noted_few {run : Run σ} (generator : Generator σ) (attempt : Attempt) {count : Nat}
    (due : run.lines < count) : (run.noted generator attempt).lines ≤ count := by
  have one := linesOf_singleton_le attempt
  dsimp only [Run.noted]
  omega

/-- What a run keeps, whether or not its last attempt ended it. -/
structure Kept (order : Generation) (clock : Clock) (run : Run σ) : Prop where
  /-- It counts its lines. -/
  lines : run.lines = linesOf run.log
  /-- It counts its overflows. -/
  overflows : run.overflows = run.log.countP Attempt.overflowed
  /-- It writes no more lines than ordered. -/
  few : run.lines ≤ order.count
  /-- Each attempt was for the next reading. -/
  read : ∀ later attempt earlier, run.log = later ++ attempt :: earlier →
    attempt.Read order clock earlier
  /-- The generator remembers the last identifier. -/
  memory : run.generator.last =
    (run.log.filterMap Attempt.made?).head?.map fun id => (id.timestamp, id.entropyValue)
  /-- Each identifier is above all the ones before, as long as the clock did not go back. -/
  rising : (run.log.map Attempt.time).Pairwise (· ≥ ·) →
    (run.log.filterMap Attempt.made?).Pairwise fun later earlier => earlier.toNat < later.toNat

/-- How a run with a limited number of readings has ended. -/
inductive Ends (order : Generation) (limit : Nat) (run : Run σ) : Outcome Unit → Prop where
  /-- All lines are written. -/
  | full (written : run.lines = order.count) (goesOn : ∀ attempt ∈ run.log, attempt.GoesOn) :
    Ends order limit run (.value ())
  /-- All readings are used up. -/
  | short (goesOn : ∀ attempt ∈ run.log, attempt.GoesOn) (used : run.log.length = limit) :
    Ends order limit run .unfinished
  /-- The last attempt ended it. -/
  | failed (attempt : Attempt) (earlier : List Attempt) (log : run.log = attempt :: earlier)
    (stops : ¬ attempt.GoesOn) : Ends order limit run (attempt.outcome.map fun _ => ())

/-- A run that succeeds has written all lines, and no attempt ended it. -/
theorem Ends.of_value {order : Generation} {limit : Nat} {run : Run σ}
    (ends : run.Ends order limit (.value ())) :
    run.lines = order.count ∧ ∀ attempt ∈ run.log, attempt.GoesOn := by
  generalize same : Outcome.value () = ended at ends
  cases ends with
  | full written goesOn => exact ⟨written, goesOn⟩
  | short goesOn used => exact nomatch same
  | failed attempt earlier log stops =>
    rw [← Attempt.verdict_of_stops stops, eq_comm, Attempt.verdict_eq_value_iff] at same
    exact absurd same stops

/-- A run whose last attempt let it go on, while a line was due, was given no more readings. -/
theorem Ends.of_due {order : Generation} {limit : Nat} {run : Run σ} {ended : Outcome Unit}
    (ends : run.Ends order limit ended) {attempt : Attempt} {earlier : List Attempt}
    (log : run.log = attempt :: earlier) (goes : attempt.GoesOn) (due : run.lines < order.count) :
    ended = .unfinished ∧ run.log.length = limit := by
  cases ends with
  | full written goesOn => exact absurd written due.ne
  | short goesOn used => exact ⟨rfl, used⟩
  | failed last before same stops =>
    obtain ⟨rfl, -⟩ := List.cons.inj (log.symm.trans same)
    exact absurd goes stops

/-- A run that ends in an error has it from its last attempt, which did not overflow. -/
theorem Ends.of_error {order : Generation} {limit : Nat} {run : Run σ} {cause : Error}
    (ends : run.Ends order limit (.error cause)) :
    cause ≠ .monotonicOverflow ∧
      ∃ time earlier, run.log = ⟨time, .error cause⟩ :: earlier := by
  generalize same : Outcome.error cause = ended at ends
  cases ends with
  | full written goesOn => exact nomatch same
  | short goesOn used => exact nomatch same
  | failed attempt earlier log stops =>
    obtain ⟨time, outcome⟩ := attempt
    cases outcome with
    | error found =>
      obtain rfl : cause = found := Outcome.error.inj same
      refine ⟨?_, time, earlier, log⟩
      rintro rfl
      exact stops (.inr rfl)
    | value id => exact nomatch same
    | crash text => exact nomatch same
    | unfinished => exact nomatch same

variable {order : Generation} {clock : Clock} {run : Run σ}

/-- A run begins with nothing written. -/
theorem Kept.start (order : Generation) (clock : Clock) (source : σ) :
    (Run.start order source).Kept order clock where
  lines := rfl
  overflows := rfl
  few := Nat.zero_le order.count
  read := fun later attempt earlier split => absurd split.symm (by simp [Run.start])
  memory := rfl
  rising := fun _ => List.Pairwise.nil

/-- A run that has not ended has read the clock once for each attempt. -/
theorem Kept.readings (kept : run.Kept order clock)
    (goesOn : ∀ attempt ∈ run.log, attempt.GoesOn) : run.readings = run.log.length := by
  rw [length_of_goesOn run.log goesOn, Run.readings, kept.lines, kept.overflows]

/-- What a run keeps of an attempt, with the attempts in the order that they were made. -/
theorem Kept.read_after (kept : run.Kept order clock) {before behind : List Attempt}
    {attempt : Attempt} (split : run.log.reverse = before ++ attempt :: behind) :
    attempt.Read order clock before.reverse :=
  kept.read behind.reverse attempt before.reverse (split_of_reverse split)

/-- An attempt that another one follows has let the run go on. -/
theorem Kept.goesOn_of_followed (kept : run.Kept order clock) {before behind : List Attempt}
    {attempt : Attempt} (split : run.log.reverse = before ++ attempt :: behind)
    (followed : behind ≠ []) : attempt.GoesOn := by
  cases behind with
  | nil => exact absurd rfl followed
  | cons next rest =>
    rw [List.append_cons] at split
    apply (kept.read_after split).goesOn
    simp

/-- After an overflow a line is due. -/
theorem Kept.due_after_overflow (kept : run.Kept order clock) {attempt : Attempt}
    {earlier : List Attempt} (log : run.log = attempt :: earlier)
    (overflow : attempt.outcome = .error .monotonicOverflow) : run.lines < order.count := by
  have goesOn : attempt.GoesOn := .inr (decide_eq_true overflow)
  have due := (kept.read [] attempt earlier log).due
  have none := goesOn.no_line_iff.mpr overflow
  rw [kept.lines, log, linesOf_cons]
  omega

/-- The identifiers have the times that their attempts read. -/
theorem Kept.stamps (kept : run.Kept order clock) :
    run.written.map Ulid.timestamp =
      (run.log.reverse.filter fun attempt => attempt.made?.isSome).map Attempt.time := by
  have stamp : ∀ attempt ∈ run.log.reverse, ∀ id, attempt.made? = some id →
      id.timestamp = attempt.time := by
    intro attempt member id made
    obtain ⟨before, behind, split⟩ := List.append_of_mem member
    exact (kept.read_after split).stamp id made
  exact stamps_of_tried run.log.reverse stamp

/-- The lines increase as long as the clock did not go back. -/
theorem Kept.output_increases (kept : run.Kept order clock)
    (ordered : (run.log.reverse.map Attempt.time).Pairwise (· ≤ ·)) :
    run.output.Pairwise fun earlier later =>
      compare (Bytes.ofText earlier) (Bytes.ofText later) = .lt := by
  rw [List.map_reverse, List.pairwise_reverse] at ordered
  rw [output, List.pairwise_map, written, List.filterMap_reverse, List.pairwise_reverse]
  exact (kept.rising ordered).imp fun below => (Ulid.below_of_toNat _ _ below).text

/-- A time that does not fit ended the run. -/
theorem Kept.late (kept : run.Kept order clock) {limit : Nat} {ended : Outcome Unit}
    (ends : run.Ends order limit ended) (attempt : Attempt) (member : attempt ∈ run.log)
    (late : attempt.time > maxTime) : ended = .error (.bigTime attempt.time) := by
  obtain ⟨later, earlier, split⟩ := List.append_of_mem member
  have outcome := (kept.read later attempt earlier split).late late
  have stops : ¬ attempt.GoesOn := by
    rw [← Attempt.verdict_eq_value_iff, Attempt.verdict, Attempt.overflowed, outcome]
    simp [Outcome.map, Outcome.bind]
  cases ends with
  | full written goesOn => exact absurd (goesOn attempt member) stops
  | short goesOn used => exact absurd (goesOn attempt member) stops
  | failed last before log stopped =>
    -- An attempt before the last one would have let the run go on.
    rw [log] at member
    obtain rfl | inside := List.mem_cons.mp member
    · rw [outcome]
      rfl
    · exact absurd ((kept.read [] last before log).goesOn attempt inside) stops

end Run

namespace Generation

variable [ByteSource σ]

/-- A monotonic order fills its entropy from the generator. -/
theorem entropy_of_monotonic (order : Generation) (monotonic : order.monotonic = true) :
    order.entropy = (.monotonic inferInstance : Entropy (Generator σ)) := by
  rw [entropy, if_pos monotonic]

/-- An attempt is noted in front of those before. -/
theorem attempt_log (attempts : Nat) (order : Generation) (now : UInt64) (run : Run σ) :
    ∃ tried, (order.attempt attempts now run).2.log = tried :: run.log := by
  rw [attempt]
  generalize Ulid.new attempts now order.entropy run.generator = call
  obtain ⟨outcome, generator⟩ := call
  refine ⟨⟨now, outcome⟩, ?_⟩
  cases outcome with
  | value id => rfl
  | error cause =>
    dsimp only
    split <;> rfl
  | crash text => rfl
  | unfinished => rfl

/-- A run that has written all lines has ended. -/
theorem proceed_of_full (attempts : Nat) (order : Generation) (clock : Clock) (fuel : Nat)
    (run : Run σ) (full : order.count ≤ run.lines) :
    order.proceed attempts clock fuel run = (.value (), run) := by
  cases fuel with
  | zero => rw [proceed, if_pos full]
  | succ fuel => rw [proceed, if_pos full]

/-- As long as a line is due a run goes on from the next attempt, unless that ends it. -/
theorem proceed_of_due (attempts : Nat) (order : Generation) (clock : Clock) (fuel : Nat)
    (run : Run σ) (due : run.lines < order.count) :
    order.proceed attempts clock (fuel + 1) run =
      let step := order.attempt attempts (clock run.readings run.lines) run
      if step.1 = .value () then order.proceed attempts clock fuel step.2 else step := by
  rw [proceed, if_neg (Nat.not_le_of_lt due)]
  generalize order.attempt attempts (clock run.readings run.lines) run = step
  obtain ⟨answer, after⟩ := step
  cases answer with
  | value => rfl
  | error cause => rfl
  | crash text => rfl
  | unfinished => rfl

/-- A run that is given one more reading ends as before, or has used up all others and makes one
more attempt. -/
theorem proceed_succ (attempts : Nat) (order : Generation) (clock : Clock) (fuel : Nat)
    (run : Run σ) :
    let before := (order.proceed attempts clock fuel run).2
    let after := (order.proceed attempts clock (fuel + 1) run).2
    after = before ∨ before.log.length = run.log.length + fuel ∧
      after = (order.attempt attempts (clock before.readings before.lines) before).2 := by
  induction fuel generalizing run with
  | zero =>
    by_cases full : order.count ≤ run.lines
    · rw [proceed_of_full attempts order clock (0 + 1) run full]
      exact .inl rfl
    · rw [proceed_of_due attempts order clock 0 run (Nat.lt_of_not_le full)]
      refine .inr ⟨rfl, ?_⟩
      dsimp only
      split <;> rfl
  | succ fuel ih =>
    by_cases full : order.count ≤ run.lines
    · rw [proceed_of_full attempts order clock (fuel + 1) run full,
        proceed_of_full attempts order clock (fuel + 1 + 1) run full]
      exact .inl rfl
    · have due := Nat.lt_of_not_le full
      obtain ⟨tried, log⟩ := attempt_log attempts order (clock run.readings run.lines) run
      rw [proceed_of_due attempts order clock fuel run due,
        proceed_of_due attempts order clock (fuel + 1) run due]
      dsimp only
      split
      · have rest := ih (order.attempt attempts (clock run.readings run.lines) run).2
        rwa [log, List.length_cons, Nat.add_assoc, Nat.add_comm 1 fuel] at rest
      · exact .inl rfl

/-- The same from the start. -/
theorem perform_succ (attempts : Nat) (order : Generation) (clock : Clock) (fuel : Nat)
    (source : σ) :
    let before := (order.perform attempts fuel clock source).2
    let after := (order.perform attempts (fuel + 1) clock source).2
    after = before ∨ before.log.length = fuel ∧
      after = (order.attempt attempts (clock before.readings before.lines) before).2 := by
  have one := proceed_succ attempts order clock fuel (Run.start order source)
  have none : (Run.start order source).log.length + fuel = fuel := Nat.zero_add fuel
  rwa [none] at one

/-- The last attempt of a run is the next one of the run that was given as many readings as there
were attempts before it. -/
theorem perform_last (attempts : Nat) (order : Generation) (clock : Clock) (fuel : Nat)
    (source : σ) {tried : Attempt} {earlier : List Attempt}
    (log : (order.perform attempts fuel clock source).2.log = tried :: earlier) :
    let before := (order.perform attempts earlier.length clock source).2
    (order.attempt attempts (clock before.readings before.lines) before).2 =
      (order.perform attempts fuel clock source).2 := by
  induction fuel with
  | zero => cases log
  | succ fuel ih =>
    rcases perform_succ attempts order clock fuel source with same | ⟨used, one⟩
    · rw [same] at log ⊢
      exact ih log
    · set before := (order.perform attempts fuel clock source).2
      obtain ⟨latest, noted⟩ :=
        attempt_log attempts order (clock before.readings before.lines) before
      rw [one, noted] at log
      obtain ⟨rfl, rfl⟩ := List.cons.inj log
      rw [used]
      exact one.symm

end Generation

end SortableId.Command
