import SortableId.Command.Environment
import SortableId.Decimal.Integer

/-!
# Arguments

The options, switches and identifiers of a command line. A value may stand in the same argument as
its option or in the next one; a value in an argument of its own is checked only when the next known
name, identifier or the end follows it, so an unknown name is reported before a bad value. Variables
of the environment stand in for options that are absent.
-/

namespace SortableId.Command

/-- An option with a value. -/
inductive Choice where
  /-- How many identifiers to make. -/
  | count
  /-- The bound of monotonic increments. -/
  | increment
  /-- How to wait for the next millisecond. -/
  | backoff
  /-- How to print times. -/
  | format
  deriving DecidableEq, Repr

/-- An option without a value. -/
inductive Switch where
  /-- Entropy from a fast source. -/
  | quick
  /-- Identifiers that increase within a millisecond. -/
  | monotonic
  /-- Zero entropy. -/
  | zero
  /-- Times on the clocks of the local zone. -/
  | localTime
  /-- Arguments are paths. -/
  | path
  deriving DecidableEq, Repr

/-- What an option on the command line asks for. -/
inductive Asked where
  /-- A choice, with a value to follow. -/
  | choose (choice : Choice)
  /-- A switch. -/
  | turnOn (switch : Switch)
  /-- The help text. -/
  | help
  /-- The version. -/
  | version
  deriving DecidableEq, Repr

/-- What a long name asks for. -/
def Asked.ofName : String → Option Asked
  | "num" => some (choose .count)
  | "inc" => some (choose .increment)
  | "backoff" => some (choose .backoff)
  | "format" => some (choose .format)
  | "quick" => some (turnOn .quick)
  | "mono" => some (turnOn .monotonic)
  | "zero" => some (turnOn .zero)
  | "local" => some (turnOn .localTime)
  | "path" => some (turnOn .path)
  | "help" => some help
  | "version" => some version
  | _ => none

/-- What a letter asks for. -/
def Asked.ofLetter : Char → Option Asked
  | 'n' => some (choose .count)
  | 'f' => some (choose .format)
  | 'q' => some (turnOn .quick)
  | 'm' => some (turnOn .monotonic)
  | 'z' => some (turnOn .zero)
  | 'l' => some (turnOn .localTime)
  | 'p' => some (turnOn .path)
  | 'h' => some help
  | 'V' => some version
  | _ => none

/-- What is wrong with a command line. -/
inductive Misuse where
  /-- An option has an unknown name. -/
  | unknownName
  /-- A value cannot be read. -/
  | badValue
  /-- An option has no value. -/
  | missingValue
  /-- An option is given twice. -/
  | repeated
  /-- A switch has a value. -/
  | needlessValue
  deriving DecidableEq, Repr

/-- What a command line can give instead of settings. -/
inductive Interruption where
  /-- A request for help. -/
  | help
  /-- A request for the version. -/
  | version
  /-- A mistake. -/
  | misuse (kind : Misuse)
  deriving DecidableEq, Repr

/-- What a command line says. -/
structure Arguments where
  /-- The identifiers to inspect. -/
  ids : List String := []
  /-- How many identifiers to make. -/
  count : Option Int64 := none
  /-- The bound of monotonic increments. -/
  increment : Option UInt64 := none
  /-- How to wait for the next millisecond. -/
  backoff : Option String := none
  /-- How to print times. -/
  format : Option String := none
  /-- The switches, latest first. -/
  switches : List Switch := []
  deriving DecidableEq, Repr, Inhabited

namespace Arguments

/-- Whether an option has a value. -/
def has (arguments : Arguments) : Choice → Bool
  | .count => arguments.count.isSome
  | .increment => arguments.increment.isSome
  | .backoff => arguments.backoff.isSome
  | .format => arguments.format.isSome

/-- Reads the value of an option. -/
def set (choice : Choice) (value : String) (arguments : Arguments) : Option Arguments :=
  match choice with
  | .count => (Decimal.int64? value).map fun count => { arguments with count := some count }
  | .increment =>
    (Decimal.uint64? value).map fun increment => { arguments with increment := some increment }
  | .backoff => some { arguments with backoff := some value }
  | .format => some { arguments with format := some value }

/-- Reads the value of an option that must not have one yet. -/
def give (choice : Choice) (value : String) (arguments : Arguments) :
    Except Interruption Arguments :=
  if arguments.has choice then .error (.misuse .repeated)
  else
    match arguments.set choice value with
    | some arguments => .ok arguments
    | none => .error (.misuse .badValue)

end Arguments

/-- A command line read in part. -/
structure Reading where
  /-- What the part says. -/
  arguments : Arguments := {}
  /-- An option whose value is not checked, or not found, yet. -/
  pending : Option (Choice × Option String) := none
  deriving DecidableEq, Repr, Inhabited

namespace Reading

/-- Checks the pending option. -/
def settle (reading : Reading) : Except Interruption Reading :=
  match reading.pending with
  | none => .ok reading
  | some (_, none) => .error (.misuse .missingValue)
  | some (choice, some value) => (reading.arguments.give choice value).map fun arguments =>
    { arguments }

/-- An option with its value in the same argument. -/
def give (choice : Choice) (value : String) (reading : Reading) : Except Interruption Reading := do
  let reading ← reading.settle
  return { reading with arguments := ← reading.arguments.give choice value }

/-- An option alone: its value may follow. -/
def await (choice : Choice) (reading : Reading) : Except Interruption Reading := do
  return { ← reading.settle with pending := some (choice, none) }

/-- A switch. -/
def turnOn (switch : Switch) (reading : Reading) : Except Interruption Reading := do
  let reading ← reading.settle
  if switch ∈ reading.arguments.switches then throw (.misuse .repeated)
  return { reading with
    arguments := { reading.arguments with switches := switch :: reading.arguments.switches } }

/-- An identifier. -/
def identifier (text : String) (reading : Reading) : Except Interruption Reading := do
  let reading ← reading.settle
  let ids := reading.arguments.ids ++ [text]
  return { reading with arguments := { reading.arguments with ids } }

/-- What an option without a value does. -/
def ask (asked : Asked) (reading : Reading) : Except Interruption Reading :=
  match asked with
  | .choose choice => reading.await choice
  | .turnOn switch => reading.turnOn switch
  | .help => reading.settle.bind fun _ => .error .help
  | .version => reading.settle.bind fun _ => .error .version

/-- An argument with a long name, after its two dashes. -/
def long (text : List Char) (reading : Reading) : Except Interruption Reading :=
  match Asked.ofName (String.ofList (text.takeWhile (· != '='))), text.dropWhile (· != '=') with
  | none, _ => .error (.misuse .unknownName)
  | some (.choose choice), _ :: value => reading.give choice (String.ofList value)
  | some _, _ :: _ => .error (.misuse .needlessValue)
  | some asked, [] => reading.ask asked

/-- The value after the letter of an option: an equals sign before it does not count. -/
def afterLetter : List Char → String
  | '=' :: value => String.ofList value
  | value => String.ofList value

/-- An argument with letters, after its dash. A letter that takes a value takes the rest. -/
def letters : List Char → Reading → Except Interruption Reading
  | [], reading => .ok reading
  | letter :: rest, reading =>
    match Asked.ofLetter letter with
    | none => .error (.misuse .unknownName)
    | some (.choose choice) =>
      if rest.isEmpty then reading.await choice else reading.give choice (afterLetter rest)
    | some asked => (reading.ask asked).bind (letters rest)

/-- Whether letters read as a number: digits, at most one point and then at most one exponent, with
something before and after the exponent's letter. -/
def isNumeral (text : List Char) : Bool :=
  let whole := text.takeWhile Char.isDigit
  let rest := text.dropWhile Char.isDigit
  let exponent (before : List Char) (rest : List Char) : Bool :=
    match rest with
    | [] => true
    | letter :: power =>
      (letter == 'e' || letter == 'E') && !before.isEmpty && !power.isEmpty
        && power.all Char.isDigit
  match rest with
  | '.' :: rest => !whole.isEmpty && exponent whole (rest.dropWhile Char.isDigit)
  | rest => exponent whole rest

/-- An argument that is no name: the value of the pending option, or an identifier. -/
def value (text : String) (reading : Reading) : Except Interruption Reading :=
  match reading.pending with
  | some (choice, none) => .ok { reading with pending := some (choice, some text) }
  | _ => reading.identifier text

/-- One argument. Only the count takes a separate value that starts with a dash, if it reads as a
number. -/
def argument (text : String) (reading : Reading) : Except Interruption Reading :=
  match text.toList with
  | '-' :: '-' :: name => reading.long name
  | ['-'] => reading.value text
  | '-' :: rest =>
    if reading.pending = some (.count, none) ∧ isNumeral rest then reading.value text
    else reading.letters rest
  | _ => reading.value text

/-- Arguments that are identifiers whatever they look like. -/
def identifiers (texts : List String) (reading : Reading) : Except Interruption Reading :=
  texts.foldlM (fun (reading : Reading) text => reading.identifier text) reading

/-- The rest of a command line. After two dashes alone only identifiers follow. -/
def all : List String → Reading → Except Interruption Arguments
  | [], reading => reading.settle.map arguments
  | "--" :: rest, reading =>
    (identifiers rest reading).bind fun reading => reading.settle.map arguments
  | text :: rest, reading => (reading.argument text).bind (all rest)

end Reading

namespace Arguments

/-- The variable that stands in for an option. -/
def variableName : Choice → String
  | .count => "RULID_NUM"
  | .increment => "RULID_INC"
  | .backoff => "RULID_BACKOFF"
  | .format => "RULID_FORMAT"

/-- All options with a value. -/
def choices : List Choice := [.count, .increment, .backoff, .format]

/-- Takes an option that is absent from its variable, if that is set. -/
def fallBack (environment : Environment) (arguments : Arguments) (choice : Choice) :
    Except Interruption Arguments :=
  match environment.get? (variableName choice) with
  | some value => if arguments.has choice then .ok arguments else arguments.give choice value
  | none => .ok arguments

/-- Reads a command line, and the environment for what it leaves open. -/
def parse (environment : Environment) (line : List String) : Except Interruption Arguments :=
  (Reading.all line {}).bind fun arguments => choices.foldlM (fallBack environment) arguments

end Arguments

end SortableId.Command
