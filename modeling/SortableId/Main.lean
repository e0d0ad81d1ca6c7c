import SortableId.Command.Program
import SortableId.Source.Plain
import SortableId.Source.Reservoir
import SortableId.Source.SplitMix
import Std.Time.DateTime.Timestamp

/-!
# The command line tool

The outer layer: it collects arguments, variables, random bytes and the time, calls the library and
prints what that answers.
-/

namespace SortableId.Command.Tool

/-- The lines for a request for help. -/
def helpLines : List String := [
  "Generate or inspect ULIDs",
  "",
  "Usage: rulid [OPTIONS] [ULID]...",
  "",
  "Options:",
  "  -n, --num <NUM>          How many to generate [env: RULID_NUM] [default: 1]",
  "  -q, --quick              Use quick entropy instead of the system's",
  "  -m, --mono               Keep increasing within a millisecond",
  "  -z, --zero               Use zero entropy",
  "      --inc <INC>          Bound of monotonic increments [env: RULID_INC] [default: 0]",
  "      --backoff <BACKOFF>  spin, yield or sleep [env: RULID_BACKOFF] [default: spin]",
  "  -f, --format <FORMAT>    default, rfc3339, unix or ms [env: RULID_FORMAT]",
  "  -l, --local              Print inspected times in the local time zone",
  "  -p, --path               Treat arguments as paths",
  "  -h, --help               Print help",
  "  -V, --version            Print version"]

/-- What is said about a mistake in the command line. -/
def misuseText : Misuse → String
  | .unknownName => "error: unexpected argument found"
  | .badValue => "error: invalid value"
  | .missingValue => "error: a value is required"
  | .repeated => "error: an argument cannot be used multiple times"
  | .needlessValue => "error: unexpected value"

/-- The file of definitions in this directory or the nearest one above. -/
def definitionsFile : IO String := do
  let depth := ((← IO.currentDir).toString.splitOn "/").length
  for height in [0:depth] do
    let path := String.join (List.replicate height "../") ++ ".env"
    try
      return ← IO.FS.readFile path
    catch _ => pure ()
  return ""

/-- The variables that the tool or its file of definitions names, if the definitions can be made. -/
def environment : IO (Option Environment) := do
  let file ← definitionsFile
  let names := Arguments.choices.map Arguments.variableName ++ "TZ" :: EnvironmentFile.names file
  let found ← names.eraseDups.filterMapM fun name => do
    return (← IO.getEnv name).map fun value => (name, value)
  return ({ settings := found } : Environment).withFile file

/-- The time in milliseconds. -/
def now : IO UInt64 := do
  return UInt64.ofNat (← Std.Time.Timestamp.now).toMillisecondsSinceUnixEpoch.toInt.toNat

/-- Random bytes of the operating system. -/
def randomBytes (size : USize) : IO (List UInt8) := return (← IO.getRandomBytes size).toList

/-- Waits before the next attempt. -/
def wait : Backoff → IO Unit
  | .spin => pure ()
  | .yield => IO.sleep 0
  | .sleep => IO.sleep 1

/-- The most candidates for one increment. -/
def attempts : Nat := 100

/-- More readings of the clock than any run takes. -/
def readings : Nat := 1000000000000000000

/-- The world outside. A source of the system gets fresh bytes for each attempt. -/
def world (supply : Supply) : World IO (supply.Source Reservoir SplitMix) where
  refresh source :=
    match supply, source with
    | .system, _ => return Reservoir.mk (← randomBytes 1024)
    | .quick, source => return source
    | .zero, source => return source
  now _ _ := now
  write line := IO.println line
  wait := wait

/-- Prints what a program leaves behind. -/
def leave (ended : Exit) : IO UInt32 := do
  for line in ended.lines do
    IO.println line
  IO.eprint (ended.report.getD "")
  return ended.code

/-- Does what an order for identifiers asks for. -/
def perform (order : Generation) : IO UInt32 := do
  let seed := UInt64.ofNat (Bytes.toNat (← randomBytes 8))
  let source := order.supply.source (Reservoir.mk []) (SplitMix.mk seed)
  leave (.ofAttempts [] (← order.performIn (world order.supply) attempts readings source))

end SortableId.Command.Tool

open SortableId.Command in
/-- Runs the tool on a command line. -/
def main (line : List String) : IO UInt32 := do
  let some environment ← Tool.environment
    | Tool.leave (.ofCrash (definitionsText ++ "\n"))
  match jobOf environment line with
  | .ok (.generate order) => Tool.perform order
  | .ok (.inspect order) =>
    let (lines, failure) := order.perform environment.zone
    Tool.leave (.ofFailure lines failure)
  | .error (.interrupted .help) => Tool.leave { lines := Tool.helpLines }
  | .error (.interrupted (.misuse kind)) =>
    IO.eprintln (Tool.misuseText kind)
    return 2
  | .error refusal => Tool.leave (.ofRefusal refusal)
