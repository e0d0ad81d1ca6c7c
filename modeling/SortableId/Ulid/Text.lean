import SortableId.Ulid.Basic

/-!
# Identifiers as text

`Ulid.encoded` is the text form as symbols and `Ulid.text` the same as a string; `Ulid.parse` reads
it back. Formatting widths do not pad an identifier. Bytes and text can also be written over a
buffer, which must have the exact size and is otherwise left alone.
-/

namespace SortableId

/-- A text form as 26 bytes of text. -/
structure Encoded where
  /-- One byte for each symbol. -/
  symbols : Vector UInt8 26
  deriving DecidableEq, Repr

namespace Encoded

/-- The symbols as a string, which is empty if they are not text at all. -/
def text (encoded : Encoded) : String :=
  (String.fromUTF8? (ByteArray.mk encoded.symbols.toArray)).getD ""

/-- Bytes decide from the left. -/
instance : Ord Encoded where
  compare left right := compare left.symbols.toList right.symbols.toList

/-- Whether the text form is this text, with regard to case. -/
def isText (encoded : Encoded) (text : String) : Bool := encoded.text == text

/-- The text in double quotes. -/
def quoted (encoded : Encoded) : String := "\"" ++ encoded.text ++ "\""

end Encoded

namespace Ulid

/-- The text form. -/
def encoded (id : Ulid) : Encoded := ⟨Base32.encode id.bytes⟩

/-- The text form as a string. -/
def text (id : Ulid) : String := id.encoded.text

instance : ToString Ulid := ⟨text⟩

/-- Reads a text form. -/
def parse (mode : Base32.Mode) (text : String) : Except Error Ulid :=
  (Base32.decode mode (Bytes.ofText text)).map Ulid.mk

/-- The text form in a field of some width: no padding is added. -/
def inField (_width : Nat) (id : Ulid) : String := id.text

/-- How an identifier is shown to a programmer. -/
def describe (id : Ulid) : String := "Ulid(" ++ id.encoded.quoted ++ ")"

/-- How an identifier is shown to a programmer over several lines. -/
def describeLines (id : Ulid) : String := "Ulid(\n    " ++ id.encoded.quoted ++ ",\n)"

end Ulid

namespace Bytes

/-- Writes all of `source` over a buffer of its size; another buffer stays and is an error. -/
def overwrite (source buffer : List UInt8) : List UInt8 × Except Error Unit :=
  if buffer.length = source.length then (source, .ok ())
  else (buffer, .error (.bufferSize source.length buffer.length))

end Bytes

namespace Ulid

/-- Writes the bytes over a buffer of sixteen bytes. -/
def writeBytes (id : Ulid) (buffer : List UInt8) : List UInt8 × Except Error Unit :=
  Bytes.overwrite id.bytes.toList buffer

/-- Writes the text form over a buffer of 26 bytes. -/
def writeText (id : Ulid) (buffer : List UInt8) : List UInt8 × Except Error Unit :=
  Bytes.overwrite id.encoded.symbols.toList buffer

end Ulid

end SortableId
