import SortableId.Layout

/-!
# Causes of failure

Every operation of the library reports a failure as one of these causes. The wording is in
`Error.message` alone.
-/

namespace SortableId

/-- Why an operation failed. -/
inductive Error where
  /-- The timestamp does not fit in 48 bits. -/
  | bigTime (ms : UInt64)
  /-- The input has the wrong length for its format. -/
  | dataSize (expected actual : Nat)
  /-- The output buffer has the wrong length for its format. -/
  | bufferSize (expected actual : Nat)
  /-- Strict reading met a byte outside the alphabet. -/
  | invalidCharacter (byte : UInt8) (index : Nat)
  /-- The text needs more than 128 bits. -/
  | overflow
  /-- The next entropy value within the millisecond would exceed 80 bits. -/
  | monotonicOverflow
  /-- The byte source gave a reason instead of bytes. -/
  | sourceFailed (reason : String)
  /-- A caller crashed while it held the lock. -/
  | lockPoisoned
  deriving DecidableEq, Repr, Inhabited

namespace Error

/-- A byte as two lower-case hexadecimal digits. -/
def hexByte (byte : UInt8) : String :=
  String.ofList [Nat.digitChar (byte.toNat / 16), Nat.digitChar (byte.toNat % 16)]

/-- What a failure says to people. -/
def message : Error → String
  | bigTime ms => s!"ulid: time too big ({ms.toNat} > {maxTime.toNat})"
  | dataSize expected actual =>
    s!"ulid: bad data size when unmarshaling (expected {expected}, got {actual})"
  | bufferSize expected actual =>
    s!"ulid: bad buffer size when marshaling (expected {expected}, got {actual})"
  | invalidCharacter byte index =>
    s!"ulid: bad data characters when unmarshaling (byte 0x{hexByte byte} at index {index})"
  | overflow => "ulid: overflow when unmarshaling"
  | monotonicOverflow => "ulid: monotonic entropy overflow"
  | sourceFailed reason => s!"ulid: entropy source failed: {reason}"
  | lockPoisoned => "ulid: entropy lock poisoned"

end Error

end SortableId
