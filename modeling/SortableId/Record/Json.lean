import SortableId.Record.Visit
import SortableId.Record.Basic
import SortableId.Json.Number
import SortableId.Json.Skip
import SortableId.Decimal.Style
import SortableId.Text.Quoted

/-!
# The JSON form

A form writes a value as JSON text without blanks and reads one from the front of a text. An
identifier is its text, read strictly; no identifier is `null`; a map is an object whose keys are
texts; a row is an object with named fields, read also from a list in their order; a number is
written with its decimal digits. A value of another kind is refused with both kinds in the message.
-/

namespace SortableId

namespace Json

/-- A writer and a reader of one type. -/
structure Form (α : Type) where
  /-- The text of a value. -/
  write : α → List Char
  /-- A value from the front. -/
  read : Reader α

/-- How a number is named in a message. -/
def Number.describe : Number → String
  | unsigned value => Held.describeInteger value.toNat
  | negative value => Held.describeInteger value.toInt
  | float value => "floating point \x60" ++ Decimal.ofBits Decimal.messages value.toBits ++ "\x60"

/-- Refuses a value for its kind. -/
def refuseKind {α : Type} (expected found : String) : Reader α :=
  throw (.refused ("invalid type: " ++ found ++ ", expected " ++ expected))

/-- Refuses the value that begins with a character, after reading as much as names its kind. -/
def refuse {α : Type} (expected : String) (first : Char) : Reader α := do
  match first with
  | 'n' =>
    advance
    word ['u', 'l', 'l']
    refuseKind expected "null"
  | 't' =>
    advance
    word ['r', 'u', 'e']
    refuseKind expected (Held.describeBoolean true)
  | 'f' =>
    advance
    word ['a', 'l', 's', 'e']
    refuseKind expected (Held.describeBoolean false)
  | '-' =>
    advance
    refuseKind expected (← number true).describe
  | '"' =>
    advance
    refuseKind expected ("string " ++ Text.quoted (← string))
  | '[' => refuseKind expected "sequence"
  | '\x7b' => refuseKind expected "map"
  | _ =>
    if first.isDigit then refuseKind expected (← number false).describe
    else throw .malformed

/-- The identifier of a text, or the refusal of it. -/
def accept (text : String) : Reader Ulid :=
  match Ulid.parse .strict text with
  | .ok id => return id
  | .error cause => throw (.refused cause.message)

/-- A text in quotes; it must need no escapes. -/
def quote (text : String) : List Char := '"' :: text.toList ++ ['"']

/-- The text form in quotes. -/
def ulid : Form Ulid where
  write id := quote id.text
  read := do
    match ← peekToken with
    | none => throw .ended
    | some '"' =>
      advance
      accept (← string)
    | some first => refuse expectedUlid first

/-- `null`, or the value. -/
def option {α : Type} (form : Form α) : Form (Option α) where
  write
    | none => ['n', 'u', 'l', 'l']
    | some value => form.write value
  read := do
    match ← peekToken with
    | some 'n' =>
      advance
      word ['u', 'l', 'l']
      return none
    | _ => return some (← form.read)

/-- Texts with commas between them. -/
def commas : List (List Char) → List Char
  | [] => []
  | [text] => text
  | text :: rest => text ++ ',' :: commas rest

/-- Reads the elements of a list after its opening bracket, within a number of rounds. -/
def elements {α : Type} (form : Form α) : Nat → Bool → Reader (List α)
  | 0, _ => throw .ended
  | rounds + 1, first => do
    if ← hasElement first then
      let value ← form.read
      return value :: (← elements form rounds false)
    else return []

/-- The values in brackets. -/
def list {α : Type} (form : Form α) : Form (List α) where
  write values := '[' :: commas (values.map form.write) ++ [']']
  read := do
    match ← peekToken with
    | none => throw .ended
    | some '[' =>
      advance
      let values ← fun text => (elements form (text.length + 1) true).run text
      close ']'
      return values
    | some first => refuse "a sequence" first

/-- Reads the entries of a map after its opening brace, within a number of rounds. -/
def entries : Nat → Bool → Reader (List (Ulid × Option Ulid))
  | 0, _ => throw .ended
  | rounds + 1, first => do
    if ← hasMember first then
      advance
      let key ← accept (← string)
      colon
      let value ← (option ulid).read
      return (key, value) :: (← entries rounds false)
    else return []

/-- An object whose keys are texts of identifiers; the last value of a key counts. -/
def map : Form IdMap where
  write map :=
    let member (entry : Ulid × Option Ulid) : List Char :=
      ulid.write entry.1 ++ ':' :: (option ulid).write entry.2
    '\x7b' :: commas (map.entries.map member) ++ ['\x7d']
  read := do
    match ← peekToken with
    | none => throw .ended
    | some '\x7b' =>
      advance
      let found ← fun text => (entries (text.length + 1) true).run text
      close '\x7d'
      return .ofList found
    | some first => refuse "a map" first

/-- A field of an object. -/
def field (name : String) (value : List Char) : List Char := quote name ++ ':' :: value

/-- Refuses a second value of a field. -/
def duplicate {α : Type} (name : String) : Reader α :=
  throw (.refused ("duplicate field \x60" ++ name ++ "\x60"))

/-- Refuses an object without a field. -/
def missing {α : Type} (name : String) : Reader α :=
  throw (.refused ("missing field \x60" ++ name ++ "\x60"))

/-- Refuses a list with too few elements for the fields. -/
def tooFew {α : Type} (length : Nat) (expected : String) : Reader α :=
  throw (.refused ("invalid length " ++ toString length ++ ", expected " ++ expected))

/-- Reads the fields of a row after the opening brace, within a number of rounds. A field that was
read before is refused before its value is looked at, and unknown fields are passed over. -/
def rowFields : Nat → Bool → Option Ulid → Option (Option Ulid) → Reader Row
  | 0, _, _, _ => throw .ended
  | rounds + 1, first, eventId, parent => do
    if ← hasMember first then
      advance
      let name ← string
      if name == "event_id" then
        if eventId.isSome then duplicate name
        colon
        let id ← ulid.read
        rowFields rounds false (some id) parent
      else if name == "parent" then
        if parent.isSome then duplicate name
        colon
        let id ← (option ulid).read
        rowFields rounds false eventId (some id)
      else
        colon
        skip
        rowFields rounds false eventId parent
    else
      match eventId with
      | some eventId => return ⟨eventId, parent.getD none⟩
      | none => missing "event_id"

/-- Reads the fields of a row from the elements of a list after the opening bracket. -/
def rowElements : Reader Row := do
  let expected := "struct Row with 2 elements"
  if !(← hasElement true) then tooFew 0 expected
  let eventId ← ulid.read
  if !(← hasElement false) then tooFew 1 expected
  let parent ← (option ulid).read
  return ⟨eventId, parent⟩

/-- An object with the fields of a row. -/
def row : Form Row where
  write row :=
    '\x7b' :: commas [field "event_id" (ulid.write row.eventId),
      field "parent" ((option ulid).write row.parent)] ++ ['\x7d']
  read := do
    match ← peekToken with
    | none => throw .ended
    | some '[' =>
      advance
      let row ← rowElements
      close ']'
      return row
    | some '\x7b' =>
      advance
      let row ← fun text => (rowFields (text.length + 1) true none none).run text
      close '\x7d'
      return row
    | some first => refuse "struct Row" first

/-- The decimal digits of an identifier's number. -/
def decimal : Form Ulid where
  write id := Nat.toDigits 10 id.toNat
  read := do return .ofNat (← plainNumber (UInt64.size * UInt64.size - 1))

/-- Reads the field of a numeric record after the opening brace, within a number of rounds. -/
def numericFields : Nat → Bool → Option Ulid → Reader Numeric
  | 0, _, _ => throw .ended
  | rounds + 1, first, id => do
    if ← hasMember first then
      advance
      let name ← string
      if name == "id" then
        if id.isSome then duplicate name
        colon
        let id ← decimal.read
        numericFields rounds false (some id)
      else
        colon
        skip
        numericFields rounds false id
    else
      match id with
      | some id => return ⟨id⟩
      | none => missing "id"

/-- Reads a numeric record from the elements of a list after the opening bracket. -/
def numericElements : Reader Numeric := do
  if !(← hasElement true) then tooFew 0 "struct Numeric with 1 element"
  return ⟨← decimal.read⟩

/-- An object with the number as its field. -/
def numeric : Form Numeric where
  write value := '\x7b' :: field "id" (decimal.write value.id) ++ ['\x7d']
  read := do
    match ← peekToken with
    | none => throw .ended
    | some '[' =>
      advance
      let value ← numericElements
      close ']'
      return value
    | some '\x7b' =>
      advance
      let value ← fun text => (numericFields (text.length + 1) true none).run text
      close '\x7d'
      return value
    | some first => refuse "struct Numeric" first

end Json

/-- The JSON form of a shape. -/
def Shape.json : (shape : Shape) → Json.Form shape.Value
  | .ulid => Json.ulid
  | .option => Json.option Json.ulid
  | .list => Json.list (Json.option Json.ulid)
  | .map => Json.map
  | .row => Json.row
  | .numeric => Json.numeric

/-- The JSON text of a value. -/
def Shape.toJson (shape : Shape) (value : shape.Value) : String :=
  String.ofList (shape.json.write value)

/-- The value of a JSON text, which must hold one value and nothing else. -/
def Shape.ofJson (shape : Shape) (text : String) : Except Json.Problem shape.Value :=
  Json.readAll shape.json.read text

end SortableId
