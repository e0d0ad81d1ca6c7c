import SortableId.Command.Arguments
import SortableId.Command.Failure

/-!
# Jobs

What the arguments ask for, checked: with identifiers it is their inspection, without it is the
making of new ones. Words are compared without regard to the case of plain letters, and only what
the job needs is checked.
-/

namespace SortableId.Command

/-- Where entropy comes from. -/
inductive Supply where
  /-- The operating system. -/
  | system
  /-- A fast generator. -/
  | quick
  /-- Nowhere: it is zero. -/
  | zero
  deriving DecidableEq, Repr

/-- How to wait for the next millisecond. -/
inductive Backoff where
  /-- In a tight loop. -/
  | spin
  /-- Leaving the processor to others. -/
  | yield
  /-- Asleep. -/
  | sleep
  deriving DecidableEq, Repr

/-- How to print a time. -/
inductive TimeFormat where
  /-- The long form. -/
  | long
  /-- The form of internet timestamps. -/
  | internet
  /-- Whole seconds. -/
  | seconds
  /-- Milliseconds. -/
  | millis
  deriving DecidableEq, Repr

/-- An order for new identifiers. -/
structure Generation where
  /-- How many. -/
  count : Nat
  /-- Their entropy. -/
  supply : Supply
  /-- Whether they increase within a millisecond. -/
  monotonic : Bool
  /-- The requested bound of increments. -/
  increment : UInt64
  /-- How to wait for the next millisecond. -/
  backoff : Backoff
  deriving DecidableEq, Repr

/-- An order to inspect identifiers. -/
structure Inspection where
  /-- The arguments to inspect. -/
  ids : List String
  /-- How to print times. -/
  format : TimeFormat
  /-- Whether times are shown in the local zone. -/
  localTime : Bool
  /-- Whether the arguments are paths. -/
  path : Bool
  deriving DecidableEq, Repr

/-- What the program is to do. -/
inductive Job where
  /-- Make identifiers. -/
  | generate (order : Generation)
  /-- Inspect identifiers. -/
  | inspect (order : Inspection)
  deriving DecidableEq, Repr

/-- The way of waiting with a name. -/
def Backoff.ofWord : String → Option Backoff
  | "spin" => some spin
  | "yield" => some yield
  | "sleep" => some sleep
  | _ => none

/-- The format with a name. -/
def TimeFormat.ofWord : String → Option TimeFormat
  | "default" => some long
  | "rfc3339" => some internet
  | "unix" => some seconds
  | "ms" => some millis
  | _ => none

/-- A word in lower case; letters beyond the plain ones stay. -/
def lowerCase (word : String) : String := word.map Char.toLower

namespace Arguments

/-- The supply that the switches choose: zero before quick, and the system without either. -/
def supply (arguments : Arguments) : Supply :=
  if .zero ∈ arguments.switches then .zero
  else if .quick ∈ arguments.switches then .quick
  else .system

/-- The order to inspect the identifiers. -/
def inspection (arguments : Arguments) : Except Failure Inspection :=
  let word := lowerCase (arguments.format.getD "default")
  match TimeFormat.ofWord word with
  | none => .error (.badFormat word)
  | some format => .ok {
      ids := arguments.ids
      format
      localTime := .localTime ∈ arguments.switches
      path := .path ∈ arguments.switches }

/-- The order for new identifiers. -/
def generation (arguments : Arguments) : Except Failure Generation :=
  let count := arguments.count.getD 1
  let word := lowerCase (arguments.backoff.getD "spin")
  if count < 1 then .error (.badCount count)
  else
    match Backoff.ofWord word with
    | none => .error (.badBackoff word)
    | some backoff => .ok {
        count := count.toInt.toNat
        supply := arguments.supply
        monotonic := .monotonic ∈ arguments.switches
        increment := arguments.increment.getD 0
        backoff }

/-- The job that the arguments ask for. -/
def job (arguments : Arguments) : Except Failure Job :=
  if arguments.ids.isEmpty then arguments.generation.map .generate
  else arguments.inspection.map .inspect

end Arguments

end SortableId.Command
