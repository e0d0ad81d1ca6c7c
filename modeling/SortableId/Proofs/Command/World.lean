import Mathlib
import SortableId.Command.World
import SortableId.Proofs.Command.Attempts

/-!
# What a run writes to its world

In a world that only lists the lines it is given, a run ends as the run of the same attempts alone
does, and the lines listed are its output. After every attempt they are the lines of all attempts so
far: none is held back, and none is written that a later failure could take back.
-/

namespace SortableId.Command

variable {σ : Type}

/-- A world with a clock that lists the lines written, where nothing else happens. -/
def World.recording (clock : Clock) : World (StateM (List String)) σ where
  refresh source := pure source
  now readings lines := pure (clock readings lines)
  write line := modify fun lines => lines ++ [line]
  wait _ := pure ()

/-- The output of a run is that before its last attempt, and the line of that. -/
theorem Run.output_of_log {before after : Run σ} {tried : Attempt}
    (log : after.log = tried :: before.log) :
    after.output = before.output ++ (after.latest?.map Ulid.text).toList := by
  rw [output, written, log, List.reverse_cons, List.filterMap_append, List.map_append, latest?, log]
  cases made : tried.made? with
  | none => simp [output, written, made]
  | some id => simp [output, written, made]

variable [ByteSource σ]

namespace Generation

/-- An attempt does not look at the log: without it the attempt ends the same and leaves the same,
its own entry included. -/
theorem attempt_forget (attempts : Nat) (order : Generation) (now : UInt64) (run : Run σ) :
    let kept := order.attempt attempts now run
    let bare := order.attempt attempts now run.forget
    bare.1 = kept.1 ∧ bare.2.forget = kept.2.forget ∧ bare.2.latest? = kept.2.latest? := by
  rw [attempt, attempt, Run.forget]
  generalize Ulid.new attempts now order.entropy run.generator = call
  obtain ⟨outcome, generator⟩ := call
  cases outcome with
  | value id => exact ⟨rfl, rfl, rfl⟩
  | error cause =>
    by_cases overflow : order.monotonic = true ∧ cause = .monotonicOverflow
    · dsimp only
      rw [if_pos overflow, if_pos overflow]
      exact ⟨rfl, rfl, rfl⟩
    · dsimp only
      rw [if_neg overflow, if_neg overflow]
      exact ⟨rfl, rfl, rfl⟩
  | crash text => exact ⟨rfl, rfl, rfl⟩
  | unfinished => exact ⟨rfl, rfl, rfl⟩

/-- In a world that lists its lines an attempt is the attempt for the next reading, and its line is
listed behind those before. -/
theorem attemptIn_recording (attempts : Nat) (order : Generation) (clock : Clock) (run : Run σ)
    (listed : List String) :
    (order.attemptIn (World.recording clock) attempts run).run listed =
      let step := order.attempt attempts (clock run.readings run.lines) run
      (step, listed ++ (step.2.latest?.map Ulid.text).toList) := by
  rw [attemptIn]
  dsimp only [World.recording]
  simp only [pure_bind, Prod.mk.eta, ite_self]
  cases made : (order.attempt attempts (clock run.readings run.lines) run).2.latest? with
  | none =>
    simp only [StateT.run_pure, Option.map_none, Option.toList_none, List.append_nil]
    rfl
  | some id =>
    simp only [bind_pure_comp, StateT.run_map, StateT.run_modify, map_pure, Option.map_some,
      Option.toList_some]
    rfl

/-- A run that goes on in a world that lists its lines ends as the run alone. If the lines listed
were its output before, they are when it ends. -/
theorem proceedIn_recording (attempts : Nat) (order : Generation) (clock : Clock) (fuel : Nat)
    (run : Run σ) :
    (order.proceedIn (World.recording clock) attempts fuel run.forget).run run.output =
      let result := order.proceed attempts clock fuel run
      (result.1, result.2.output) := by
  induction fuel generalizing run with
  | zero => rfl
  | succ fuel ih =>
    rw [proceedIn]
    by_cases full : order.count ≤ run.lines
    · rw [if_pos (show order.count ≤ run.forget.lines from full),
        proceed_of_full attempts order clock (fuel + 1) run full]
      rfl
    · -- The world sees the attempt without the log, and lists what that adds to the output.
      obtain ⟨ended, left, made⟩ :=
        attempt_forget attempts order (clock run.readings run.lines) run
      obtain ⟨tried, log⟩ := attempt_log attempts order (clock run.readings run.lines) run
      have output := Run.output_of_log log
      have seen : (order.attemptIn (World.recording clock) attempts run.forget).run run.output =
          pure (order.attempt attempts (clock run.readings run.lines) run.forget,
            (order.attempt attempts (clock run.readings run.lines) run).2.output) := by
        rw [attemptIn_recording, output, ← made]
        rfl
      rw [if_neg (show ¬ order.count ≤ run.forget.lines from full), StateT.run_bind, seen,
        pure_bind, proceed_of_due attempts order clock fuel run (Nat.lt_of_not_le full)]
      dsimp only
      generalize order.attempt attempts (clock run.readings run.lines) run = kept at ended left ⊢
      generalize order.attempt attempts (clock run.readings run.lines) run.forget = bare
        at ended left ⊢
      rw [ended, left]
      obtain ⟨outcome, after⟩ := kept
      cases outcome with
      | value => exact ih after
      | error cause => rfl
      | crash text => rfl
      | unfinished => rfl

/-- In a world that lists its lines a run ends as the run alone, and the lines listed are its
output. -/
theorem performIn_recording (attempts fuel : Nat) (order : Generation) (clock : Clock)
    (source : σ) :
    (order.performIn (World.recording clock) attempts fuel source).run [] =
      let result := order.perform attempts fuel clock source
      (result.1, result.2.output) :=
  proceedIn_recording attempts order clock fuel (Run.start order source)

end Generation

end SortableId.Command
