import SortableId.Calendar.DateTime
import SortableId.Command.Job
import SortableId.Text.FileStem
import SortableId.Ulid.Text

/-!
# Inspecting identifiers

Each argument is read leniently and gives one line, the time of its identifier. The first argument
that is no identifier ends the inspection, and the lines before it stay.
-/

namespace SortableId.Command

/-- A timestamp as a signed integer, if it fits. -/
def signedMillis? (ms : UInt64) : Option Int64 :=
  if ms.toNat ≤ Int64.maxValue.toInt then some (Int64.ofNat ms.toNat) else none

/-- A time in a format, on the clocks of a zone. -/
def TimeFormat.render (format : TimeFormat) (zone : Zone) (ms : Int) : String :=
  match format with
  | long => (DateTime.ofMillis zone ms).longText
  | internet => (DateTime.ofMillis zone ms).internetText
  | seconds => toString (ms / 1000)
  | millis => toString ms

namespace Inspection

/-- The text of an argument: of a path the stem of its file name, or all if it has none. -/
def textOf (order : Inspection) (argument : String) : String :=
  if order.path then (Text.fileStem argument).getD argument else argument

/-- The zone of an order, where the clocks around are those of `here`. -/
def zone (order : Inspection) (here : Zone) : Zone := if order.localTime then here else .utc

/-- The line of an argument. -/
def line (order : Inspection) (here : Zone) (argument : String) : Except Failure String :=
  let text := order.textOf argument
  match Ulid.parse .lenient text with
  | .error cause => .error (.cannotInspect text cause)
  | .ok id =>
    match signedMillis? id.timestamp with
    | none => .error .tooLarge
    | some ms =>
      if DateTime.inRange ms.toInt then .ok (order.format.render (order.zone here) ms.toInt)
      else .error (.outOfRange ms)

/-- The lines of some arguments, and the failure that ended them. -/
def linesOf (order : Inspection) (here : Zone) : List String → List String × Option Failure
  | [] => ([], none)
  | argument :: rest =>
    match order.line here argument with
    | .error failure => ([], some failure)
    | .ok line =>
      let (lines, failure) := linesOf order here rest
      (line :: lines, failure)

/-- Inspects the arguments of an order. -/
def perform (order : Inspection) (here : Zone) : List String × Option Failure :=
  order.linesOf here order.ids

end Inspection

end SortableId.Command
