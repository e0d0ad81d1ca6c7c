import SortableId.Error
import SortableId.Text.Quoted

/-!
# Failures of the program

What the program reports when it cannot do its job: a message and, where another failure led to it,
the message of that one.
-/

namespace SortableId.Command

/-- Why the program stops. -/
inductive Failure where
  /-- Fewer than one identifier is asked for. -/
  | badCount (count : Int64)
  /-- No way of waiting has this name. -/
  | badBackoff (word : String)
  /-- No format has this name. -/
  | badFormat (word : String)
  /-- An identifier cannot be made. -/
  | cannotMake (cause : Error)
  /-- A text is no identifier. -/
  | cannotInspect (text : String) (cause : Error)
  /-- A timestamp does not fit in a signed integer. -/
  | tooLarge
  /-- A time is beyond the calendar. -/
  | outOfRange (ms : Int64)
  deriving DecidableEq, Repr

namespace Failure

/-- What the program says. -/
def message : Failure → String
  | badCount count => s!"invalid --num {count.toInt}"
  | badBackoff word => s!"invalid --backoff {word}"
  | badFormat word => s!"invalid --format {word}"
  | cannotMake cause => cause.message
  | cannotInspect text _ => s!"cannot inspect {Text.quoted text}"
  | tooLarge => "out of range integral type conversion attempted"
  | outOfRange ms => s!"timestamp {ms.toInt} out of range"

/-- The messages of the failures that led to it. -/
def causes : Failure → List String
  | cannotInspect _ cause => [cause.message]
  | _ => []

/-- The error of the library behind it. -/
def libraryError? : Failure → Option Error
  | cannotMake cause => some cause
  | cannotInspect _ cause => some cause
  | _ => none

/-- The report of a failure: its message, and its cause in a paragraph of its own. -/
def report (failure : Failure) : String :=
  "Error: " ++ failure.message ++ "\n" ++
    String.join (failure.causes.map fun cause => "\nCaused by:\n    " ++ cause ++ "\n")

end Failure

end SortableId.Command
