import Mathlib
import SortableId.Command.Inspection
import SortableId.Proofs.FileStem

/-!
# Inspecting paths

What is printed for an argument, or why nothing is, depends on the text that is found in it. The
text found in a path is the stem of its file name, so that paths to files are inspected as these
stems are: the directory, the extension and slashes at the end make no difference.
-/

namespace SortableId.Command.Inspection

variable {here : Zone}

/-- Arguments in which two orders find the same text have the same line, or fail for the same
reason. -/
theorem line_congr {left right : Inspection} {first second : String}
    (found : left.textOf first = right.textOf second) (format : left.format = right.format)
    (zone : left.zone here = right.zone here) : left.line here first = right.line here second := by
  rw [line, line, found, format, zone]

/-- Arguments with the same lines are inspected alike, up to the same failure. -/
theorem linesOf_congr {left right : Inspection} {firsts seconds : List String}
    (lines : List.Forall₂ (fun first second => left.line here first = right.line here second)
      firsts seconds) : left.linesOf here firsts = right.linesOf here seconds := by
  induction lines with
  | nil => rfl
  | cons same _ ih => rw [linesOf, linesOf, same, ih]

/-- The text found in a path to a file is the stem of the file. -/
theorem textOf_path (order : Inspection) (paths : order.path = true) (route : Text.Route)
    (stem : String) (filled : stem ≠ "") (unmarked : Text.Unmarked stem) :
    order.textOf (route.path stem) = stem := by
  rw [textOf, if_pos paths, route.fileStem_path stem filled unmarked, Option.getD_some]

/-- Paths to files are inspected as the stems of these files are when they are not taken for paths:
the lines are the same, and so is the failure that ended them. This holds in every format and for
any clocks around, whatever directories lead to the files, which extensions they have and how many
slashes follow. The stems are any texts without slashes and dots that are not empty, of 26 bytes or
not. -/
theorem inspect_paths (order : Inspection) (here : Zone) (files : List (Text.Route × String))
    (stems : ∀ file ∈ files, file.2 ≠ "" ∧ Text.Unmarked file.2) :
    perform { order with ids := files.map fun file => file.1.path file.2, path := true } here =
      perform { order with ids := files.map fun file => file.2, path := false } here := by
  apply linesOf_congr
  rw [List.forall₂_map_left_iff, List.forall₂_map_right_iff, List.forall₂_same]
  intro file mem
  obtain ⟨filled, unmarked⟩ := stems file mem
  exact line_congr (textOf_path _ rfl file.1 file.2 filled unmarked) rfl rfl

/-- Two files, the second one with a stem that denotes too much. -/
theorem inspect_paths_to_overflow :
    perform ⟨["./a.d//../01BX5ZZKBKACTAV9WEVGEMMVRZ.json//", "/81BX5ZZKBKACTAV9WEVGEMMVRZ"],
        .internet, false, true⟩ .utc =
      (["2017-10-24T01:29:36.371Z"],
        some (.cannotInspect "81BX5ZZKBKACTAV9WEVGEMMVRZ" .overflow)) := by
  let files : List (Text.Route × String) := [
    (⟨some "./a.d//..", some "json", 2, fun text same => Option.some.inj same ▸ by decide⟩,
      "01BX5ZZKBKACTAV9WEVGEMMVRZ"),
    (⟨some "", none, 0, fun text same => by cases same⟩, "81BX5ZZKBKACTAV9WEVGEMMVRZ")]
  have stems : ∀ file ∈ files, file.2 ≠ "" ∧ Text.Unmarked file.2 := by decide +kernel
  have same := inspect_paths ⟨[], .internet, false, true⟩ .utc files stems
  have paths : files.map (fun file => file.1.path file.2) =
      ["./a.d//../01BX5ZZKBKACTAV9WEVGEMMVRZ.json//", "/81BX5ZZKBKACTAV9WEVGEMMVRZ"] := by
    decide +kernel
  rw [paths] at same
  exact same.trans (by decide +kernel)

end SortableId.Command.Inspection
