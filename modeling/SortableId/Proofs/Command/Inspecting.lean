import Mathlib
import SortableId.Command.Inspection
import SortableId.Source.Plain
import SortableId.Proofs.Calendar.Gregorian
import SortableId.Proofs.FileStem
import SortableId.Proofs.Command.Stamps

/-!
# Inspecting what was made

A timestamp has 48 bits, so it fits in a signed integer and its year can be shown: the text form of
every identifier has a line in every format, whether or not it is taken for a path. Inspecting the
output of a run gives back the readings of the clock that its identifiers were stamped with.
-/

namespace SortableId

/-- The year of a time of 48 bits can be shown. -/
theorem DateTime.inRange_of_small (ms : Nat) (small : ms < 2 ^ 48) : inRange ms = true := by
  have year := Date.year_ofDays (ms / 86400000)
  rw [Date.daysBefore1970] at year
  rw [inRange, decide_eq_true_iff, firstYear, lastYear]
  omega

namespace Command

/-- A time of 48 bits fits in a signed integer. -/
theorem signedMillis_of_small (ms : UInt64) (small : ms.toNat < 2 ^ 48) :
    ∃ signed, signedMillis? ms = some signed ∧ signed.toInt = ms.toNat := by
  have fits : (ms.toNat : Int) ≤ Int64.maxValue.toInt := by
    have limit : Int64.maxValue.toInt = 2 ^ 63 - 1 := by decide
    omega
  refine ⟨Int64.ofNat ms.toNat, ?_, Int64.toInt_ofNat_of_lt (by omega)⟩
  rw [signedMillis?, if_pos fits]

namespace Inspection

/-- A text form is read as it is, whether or not it is taken for a path. -/
theorem textOf_text (order : Inspection) (id : Ulid) : order.textOf id.text = id.text := by
  rw [textOf, Ulid.fileStem_text, Option.getD_some, ite_self]

/-- The line of an argument that is read is the timestamp of its identifier. Neither the conversion
nor the range of the calendar can fail for it. -/
theorem line_of_parse (order : Inspection) (here : Zone) (argument : String) (id : Ulid)
    (read : Ulid.parse .lenient (order.textOf argument) = .ok id) :
    order.line here argument =
      .ok (order.format.render (order.zone here) id.timestamp.toNat) := by
  have small := id.timestamp_lt
  obtain ⟨signed, fits, same⟩ := signedMillis_of_small id.timestamp small
  have shown := DateTime.inRange_of_small id.timestamp.toNat small
  rw [line, read]
  dsimp only
  rw [fits]
  dsimp only
  rw [same, if_pos shown]

/-- The line of a text form is the timestamp of its identifier. -/
theorem line_of_text (order : Inspection) (here : Zone) (id : Ulid) :
    order.line here id.text =
      .ok (order.format.render (order.zone here) id.timestamp.toNat) := by
  apply line_of_parse
  rw [textOf_text, Ulid.parse_text]

/-- Text forms have one line each, and all of them are inspected. -/
theorem linesOf_texts (order : Inspection) (here : Zone) (ids : List Ulid) :
    order.linesOf here (ids.map Ulid.text) =
      (ids.map fun id => order.format.render (order.zone here) id.timestamp.toNat, none) := by
  induction ids with
  | nil => rfl
  | cons id ids ih =>
    rw [List.map_cons, linesOf, line_of_text]
    dsimp only
    rw [ih]
    rfl

/-- Inspecting the output of a run that has not failed shows the times that were read for its
identifiers. -/
theorem perform_of_timed {σ : Type} {made : Generation} {clock : Clock} {run : Run σ}
    (timed : run.Timed made clock) (order : Inspection) (fed : order.ids = run.output)
    (here : Zone) :
    order.perform here =
      (((run.log.reverse.filter fun attempt => attempt.made?.isSome).map Attempt.time).map
        fun time => order.format.render (order.zone here) time.toNat, none) := by
  rw [perform, fed, Run.output, linesOf_texts, ← timed.stamps, List.map_map]
  rfl

end Inspection

/-- Inspecting the output of a successful run, as texts or as paths and for any clocks around,
succeeds with a line for each identifier: the time that the identifier was stamped with. Each
attempt was for the next reading of the clock, and the stamps are the readings of the attempts that
made an identifier, in order; the other ones overflowed. In milliseconds the lines are these
readings in decimal, and in seconds their quotients by 1000. The run may use any source in both
modes. -/
theorem inspect_generated {σ : Type} [ByteSource σ] (attempts fuel : Nat) (made : Generation)
    (clock : Clock) (source : σ)
    (success : (made.perform attempts fuel clock source).1 = .value ()) (order : Inspection)
    (fed : order.ids = (made.perform attempts fuel clock source).2.output) (here : Zone) :
    let run := (made.perform attempts fuel clock source).2
    let stamps := (run.log.reverse.filter fun attempt => attempt.made?.isSome).map Attempt.time
    (∀ before attempt behind, run.log.reverse = before ++ attempt :: behind →
      attempt.time = clock before.length (linesOf before) ∧
      (attempt.made? = none → attempt.outcome = .error .monotonicOverflow)) ∧
    run.written.map Ulid.timestamp = stamps ∧ stamps.length = made.count ∧
    order.perform here =
      (stamps.map fun time => order.format.render (order.zone here) time.toNat, none) ∧
    (order.format = .millis →
      order.perform here = (stamps.map fun time => toString time.toNat, none)) ∧
    (order.format = .seconds →
      order.perform here = (stamps.map fun time => toString (time.toNat / 1000), none)) := by
  intro run stamps
  obtain ⟨timed, lines⟩ : run.Timed made clock ∧ run.lines = made.count :=
    made.proceed_timed attempts clock fuel _ (.start made clock source) success
  have shown : order.perform here =
      (stamps.map fun time => order.format.render (order.zone here) time.toNat, none) :=
    order.perform_of_timed timed fed here
  have stamped : run.written.map Ulid.timestamp = stamps := timed.stamps
  refine ⟨fun before attempt behind split => ⟨timed.time_after split, fun nothing => ?_⟩, stamped,
    ?_, shown, fun millis => ?_, fun seconds => ?_⟩
  · have member : attempt ∈ run.log := by
      rw [← List.mem_reverse, split]
      exact List.mem_append_right before List.mem_cons_self
    have goesOn := timed.goesOn attempt member
    rw [Attempt.GoesOn, nothing] at goesOn
    exact of_decide_eq_true (goesOn.resolve_left Bool.false_ne_true)
  · rw [← stamped, List.length_map, timed.length_written, lines]
  · rw [shown, millis]
    rfl
  · rw [shown, seconds]
    rfl

/-- A monotonic run for two identifiers, over a clock that stands still until it is read again: the
second one overflows at first and is stamped with the next millisecond, which starts a new second.
The output is inspected as paths, in both formats. -/
theorem inspect_generated_after_overflow :
    let made : Generation := ⟨2, .quick, true, 0, .spin⟩
    let run := made.perform 1 3 (Clock.stalled 1999) (Repeated.mk 0xFF)
    run.1 = .value () ∧
      Inspection.perform ⟨run.2.output, .millis, false, true⟩ .utc = (["1999", "2000"], none) ∧
      Inspection.perform ⟨run.2.output, .seconds, true, true⟩ (.offset 3600) =
        (["1", "2"], none) := by
  intro made run
  have success : run.1 = .value () := by decide +kernel
  have readings : (run.2.log.reverse.filter fun attempt => attempt.made?.isSome).map Attempt.time =
      [1999, 2000] := by
    decide +kernel
  refine ⟨success, ?_, ?_⟩
  · have shown := (inspect_generated 1 3 made _ _ success ⟨run.2.output, .millis, false, true⟩ rfl
      .utc).2.2.2.2.1 rfl
    rw [shown, Prod.mk.injEq]
    exact ⟨(congrArg _ readings).trans (by decide +kernel), rfl⟩
  · have shown := (inspect_generated 1 3 made _ _ success ⟨run.2.output, .seconds, true, true⟩ rfl
      (.offset 3600)).2.2.2.2.2 rfl
    rw [shown, Prod.mk.injEq]
    exact ⟨(congrArg _ readings).trans (by decide +kernel), rfl⟩

end Command

end SortableId
