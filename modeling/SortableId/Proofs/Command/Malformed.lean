import Mathlib
import SortableId.Proofs.Lenient
import SortableId.Proofs.Command.Inspecting

/-!
# Where an inspection stops

An argument is inspected if its text is legible: 26 bytes, of which the first is a digit up to 7.
Nothing after reading it can fail, so an inspection stops at the first argument whose text is not,
and prints before it what inspecting each argument alone prints.
-/

namespace SortableId.Command.Inspection

/-- The text of an argument can be read. -/
def Readable (order : Inspection) (argument : String) : Prop :=
  Base32.Legible (Bytes.ofText (order.textOf argument))

/-- The inspection of one argument alone. -/
def alone (order : Inspection) (argument : String) : Inspection := { order with ids := [argument] }

/-- What is printed for arguments that are inspected each alone. -/
def eachAlone (order : Inspection) (here : Zone) (arguments : List String) : List String :=
  arguments.flatMap fun argument => ((order.alone argument).perform here).1

/-- A readable argument has a line. -/
theorem line_of_readable (order : Inspection) (here : Zone) (argument : String)
    (readable : order.Readable argument) : ∃ line, order.line here argument = .ok line := by
  obtain ⟨-, bytes, read⟩ | ⟨illegible, -⟩ :=
    Base32.decode_lenient_cases (Bytes.ofText (order.textOf argument))
  · refine ⟨_, order.line_of_parse here argument ⟨bytes⟩ ?_⟩
    rw [Ulid.parse, read]
    rfl
  · exact absurd readable illegible

/-- An argument that is not readable fails to be read. -/
theorem line_of_malformed (order : Inspection) (here : Zone) (argument : String)
    (malformed : ¬ order.Readable argument) :
    order.line here argument =
      .error (.cannotInspect (order.textOf argument)
        (Base32.refusal (Bytes.ofText (order.textOf argument)))) := by
  obtain ⟨legible, -⟩ | ⟨-, refused⟩ :=
    Base32.decode_lenient_cases (Bytes.ofText (order.textOf argument))
  · exact absurd legible malformed
  · rw [line, Ulid.parse, refused]
    rfl

/-- Alone, an argument with a line prints it. -/
theorem perform_alone (order : Inspection) (here : Zone) (argument line : String)
    (shown : order.line here argument = .ok line) :
    (order.alone argument).perform here = ([line], none) := by
  have same : (order.alone argument).line here argument = .ok line := shown
  rw [perform, alone, linesOf, ← alone, same]
  rfl

/-- Readable arguments print what each prints alone, and those after them go on from there. -/
theorem linesOf_append (order : Inspection) (here : Zone) (arguments rest : List String)
    (readable : ∀ argument ∈ arguments, order.Readable argument) :
    order.linesOf here (arguments ++ rest) =
      (order.eachAlone here arguments ++ (order.linesOf here rest).1,
        (order.linesOf here rest).2) := by
  induction arguments with
  | nil => rfl
  | cons argument arguments ih =>
    obtain ⟨first, others⟩ := List.forall_mem_cons.mp readable
    obtain ⟨line, shown⟩ := order.line_of_readable here argument first
    have single := order.perform_alone here argument line shown
    rw [List.cons_append, linesOf, shown]
    dsimp only
    rw [ih others, eachAlone, eachAlone, List.flatMap_cons, single]
    rfl

/-- An inspection stops at the first argument that is not readable. -/
theorem perform_stops (order : Inspection) (here : Zone) (before after : List String)
    (argument : String) (split : order.ids = before ++ argument :: after)
    (readable : ∀ other ∈ before, order.Readable other) (malformed : ¬ order.Readable argument) :
    order.perform here =
      (order.eachAlone here before, some (.cannotInspect (order.textOf argument)
        (Base32.refusal (Bytes.ofText (order.textOf argument))))) := by
  have refused := order.line_of_malformed here argument malformed
  rw [perform, split, order.linesOf_append here before _ readable, linesOf, refused]
  dsimp only
  rw [List.append_nil]

/-- An inspection of readable arguments has all their lines. -/
theorem perform_finishes (order : Inspection) (here : Zone)
    (readable : ∀ argument ∈ order.ids, order.Readable argument) :
    order.perform here = (order.eachAlone here order.ids, none) := by
  have all := order.linesOf_append here order.ids [] readable
  rw [List.append_nil] at all
  rw [perform, all, linesOf, List.append_nil]

/-- An inspection fails exactly when an argument is not readable. -/
theorem perform_fails_iff (order : Inspection) (here : Zone) :
    (order.perform here).2 ≠ none ↔ ∃ argument ∈ order.ids, ¬ order.Readable argument := by
  classical
  constructor
  · intro failed
    by_contra none
    push Not at none
    exact failed (congrArg Prod.snd (order.perform_finishes here none))
  · rintro ⟨argument, mem, malformed⟩
    obtain ⟨before, first, after, split, readable, stops⟩ :=
      Base32.exists_first order.Readable order.ids fun all => malformed (all argument mem)
    rw [order.perform_stops here before after first split readable stops]
    exact Option.some_ne_none _

/-- An inspection stops at the first argument whose text is not legible, and never before. With
such an argument it fails there, and its lines are those of the arguments before; without one it
does not fail, and its lines are those of all arguments: each is the one line that inspecting the
argument alone prints. Once its text has been read an argument has a line: the timestamp fits in a
signed integer, and the calendar shows it. -/
theorem inspect_until_malformed (order : Inspection) (here : Zone) :
    (∀ before argument after, order.ids = before ++ argument :: after →
      (∀ other ∈ before, order.Readable other) → ¬ order.Readable argument →
      order.perform here =
        (order.eachAlone here before, some (.cannotInspect (order.textOf argument)
          (Base32.refusal (Bytes.ofText (order.textOf argument)))))) ∧
    ((∀ argument ∈ order.ids, order.Readable argument) →
      order.perform here = (order.eachAlone here order.ids, none)) ∧
    ((order.perform here).2 ≠ none ↔ ∃ argument ∈ order.ids, ¬ order.Readable argument) ∧
    (∀ argument, order.Readable argument →
      ∃ line, (order.alone argument).perform here = ([line], none)) ∧
    ∀ argument id, Ulid.parse .lenient (order.textOf argument) = .ok id →
      ∃ ms, signedMillis? id.timestamp = some ms ∧ DateTime.inRange ms.toInt = true ∧
        order.line here argument = .ok (order.format.render (order.zone here) ms.toInt) := by
  refine ⟨fun before argument after => order.perform_stops here before after argument,
    order.perform_finishes here, order.perform_fails_iff here, fun argument readable => ?_,
    fun argument id read => ?_⟩
  · obtain ⟨line, shown⟩ := order.line_of_readable here argument readable
    exact ⟨line, order.perform_alone here argument line shown⟩
  · have small := id.timestamp_lt
    obtain ⟨ms, fits, same⟩ := signedMillis_of_small id.timestamp small
    refine ⟨ms, fits, ?_⟩
    rw [same]
    exact ⟨DateTime.inRange_of_small id.timestamp.toNat small,
      order.line_of_parse here argument id read⟩

end SortableId.Command.Inspection
