import SortableId.Command.EnvironmentFile
import SortableId.Command.Inspection
import SortableId.Command.World

/-!
# The program

From a command line and its surroundings to what the program prints and its exit code.
-/

namespace SortableId.Command

/-- Why a program does no job. -/
inductive Refusal where
  /-- The command line asks for something else, or is wrong. -/
  | interrupted (interruption : Interruption)
  /-- What it asks for cannot be done. -/
  | failed (failure : Failure)
  deriving DecidableEq, Repr

/-- The job of a command line in an environment. -/
def jobOf (environment : Environment) (line : List String) : Except Refusal Job :=
  match Arguments.parse environment line with
  | .error interruption => .error (.interrupted interruption)
  | .ok arguments => arguments.job.mapError .failed

/-- The zone that an environment sets. -/
def Environment.zone (environment : Environment) : Zone :=
  match environment.get? "TZ" with
  | some setting => .ofSetting setting
  | none => .offset 0

/-- The line that tells the version. -/
def versionLine : String := "rulid 0.1.0"

/-- What a program leaves behind. -/
structure Exit where
  /-- The lines printed. -/
  lines : List String
  /-- The exit code. -/
  code : UInt32 := 0
  /-- The report of a failure. -/
  report : Option String := none
  deriving DecidableEq, Repr

namespace Exit

/-- Ends with a failure, or without one. -/
def ofFailure (lines : List String) : Option Failure → Exit
  | none => { lines }
  | some failure => { lines, code := 1, report := some failure.report }

/-- Ends as attempts that printed these lines end. -/
def ofAttempts (lines : List String) : Outcome Unit → Exit
  | .value () => { lines }
  | .error cause => ofFailure lines (some (.cannotMake cause))
  | .crash text => { lines, code := 101, report := some text }
  | .unfinished => { lines, code := 101 }

/-- Ends without a job. -/
def ofRefusal : Refusal → Exit
  | .interrupted .help => { lines := [] }
  | .interrupted .version => { lines := [versionLine] }
  | .interrupted (.misuse _) => { lines := [], code := 2 }
  | .failed failure => ofFailure [] (some failure)

/-- Ends before there is a job, with a crash. -/
def ofCrash (text : String) : Exit := { lines := [], code := 101, report := some text }

end Exit

/-- What is said about definitions of variables that cannot be made. -/
def definitionsText : String := "failed to set environment variable"

/-- What the program does in an environment, to which the definitions of a file are added, with the
sources of entropy and the clock that it finds. Of the sources the one of the system and the fast
one are used, as `Supply.source` chooses. -/
def program {σ : Type} [ByteSource σ] (attempts fuel : Nat) (environment : Environment)
    (file : String) (sources : Supply → σ) (clock : Clock) (line : List String) : Exit :=
  match environment.withFile file with
  | none => .ofCrash definitionsText
  | some environment =>
    match jobOf environment line with
    | .error refusal => .ofRefusal refusal
    | .ok (.inspect order) =>
      let (lines, failure) := order.perform environment.zone
      .ofFailure lines failure
    | .ok (.generate order) =>
      let source := order.supply.source (sources .system) (sources .quick)
      let (ended, run) := order.perform attempts fuel clock source
      .ofAttempts run.output ended

end SortableId.Command
