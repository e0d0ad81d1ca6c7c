import SortableId.Record.Basic

/-!
# The binary form

A form writes a value as bytes and reads one from the front of a byte list, returning the bytes
after it. Lengths and counts are 64 bits, the lowest byte first; an identifier is its length and
its bytes; an optional value has a tag byte; the fields of a row follow each other; a number has
sixteen bytes, the lowest first. Bytes after a value belong to others.
-/

namespace SortableId

namespace Binary

/-- Why bytes are no stored value. -/
inductive ReadError where
  /-- They end too early. -/
  | exhausted
  /-- They are no identifier. -/
  | refused (cause : Error)
  /-- A tag byte is neither 0 nor 1. -/
  | badTag (tag : UInt8)
  deriving DecidableEq, Repr

/-- A writer and a prefix reader of one type. -/
structure Form (α : Type) where
  /-- The bytes of a value. -/
  write : α → List UInt8
  /-- A value from the front, and the bytes after it. -/
  read : List UInt8 → Except ReadError (α × List UInt8)

/-- Takes a number of bytes off the front. -/
def take (count : Nat) (bytes : List UInt8) : Except ReadError (List UInt8 × List UInt8) :=
  let front := bytes.take count
  if front.length = count then .ok (front, bytes.drop count) else .error .exhausted

/-- A number in a fixed count of bytes, the lowest first. -/
def number (size : Nat) : Form Nat where
  write value := (Bytes.ofNat size value).toList.reverse
  read bytes := do
    let (front, rest) ← take size bytes
    return (Bytes.toNat front.reverse, rest)

/-- A count or a length. -/
def count : Form Nat := number 8

/-- A length and that many bytes, which must be those of an identifier. -/
def ulid : Form Ulid where
  write id := count.write binaryLength ++ id.bytes.toList
  read bytes := do
    let (length, rest) ← count.read bytes
    let (front, rest) ← take length rest
    match Ulid.ofSlice front with
    | .ok id => return (id, rest)
    | .error cause => throw (.refused cause)

/-- A tag byte, and the value if the tag is 1. -/
def option {α : Type} (form : Form α) : Form (Option α) where
  write
    | none => [0]
    | some value => 1 :: form.write value
  read
    | [] => .error .exhausted
    | tag :: rest =>
      if tag = 0 then .ok (none, rest)
      else if tag = 1 then do
        let (value, rest) ← form.read rest
        return (some value, rest)
      else .error (.badTag tag)

/-- Two values in order. -/
def pair {α β : Type} (left : Form α) (right : Form β) : Form (α × β) where
  write value := left.write value.1 ++ right.write value.2
  read bytes := do
    let (first, rest) ← left.read bytes
    let (second, rest) ← right.read rest
    return ((first, second), rest)

/-- Reads a number of values. -/
def readMany {α : Type} (form : Form α) :
    Nat → List UInt8 → Except ReadError (List α × List UInt8)
  | 0, bytes => .ok ([], bytes)
  | count + 1, bytes => do
    let (value, rest) ← form.read bytes
    let (values, rest) ← readMany form count rest
    return (value :: values, rest)

/-- A count and that many values. -/
def list {α : Type} (form : Form α) : Form (List α) where
  write values := count.write values.length ++ values.flatMap form.write
  read bytes := do
    let (length, rest) ← count.read bytes
    readMany form length rest

/-- A form of another type with the same content. -/
def Form.convert {α β : Type} (form : Form α) (make : α → β) (content : β → α) : Form β where
  write value := form.write (content value)
  read bytes := do
    let (value, rest) ← form.read bytes
    return (make value, rest)

/-- A map as its entries, of which the last for a key counts. -/
def map : Form IdMap := (list (pair ulid (option ulid))).convert .ofList IdMap.entries

/-- A row as its fields. -/
def row : Form Row :=
  (pair ulid (option ulid)).convert (fun fields => ⟨fields.1, fields.2⟩)
    fun row => (row.eventId, row.parent)

/-- A number of 128 bits. -/
def numeric : Form Numeric :=
  (number 16).convert (fun value => ⟨Ulid.ofNat value⟩) fun value => value.id.toNat

end Binary

/-- The binary form of a shape. -/
def Shape.binary : (shape : Shape) → Binary.Form shape.Value
  | .ulid => Binary.ulid
  | .option => Binary.option Binary.ulid
  | .list => Binary.list (Binary.option Binary.ulid)
  | .map => Binary.map
  | .row => Binary.row
  | .numeric => Binary.numeric

end SortableId
