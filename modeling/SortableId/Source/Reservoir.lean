import SortableId.Source.Basic

/-!
# Bytes fetched ahead

A source of bytes that are at hand already, for use where fresh bytes come from outside: the caller
fetches enough of them before each use. It has no native bounded number.
-/

namespace SortableId

/-- Bytes at hand, next first. -/
structure Reservoir where
  /-- The bytes. -/
  bytes : List UInt8
  deriving DecidableEq, Repr

/-- Takes some bytes, or none if there are not enough. -/
def Reservoir.take (size : Nat) (reservoir : Reservoir) : Option (Vector UInt8 size) × Reservoir :=
  let taken := reservoir.bytes.take size
  if enough : taken.length = size then
    (some ⟨taken.toArray, by simpa using enough⟩, ⟨reservoir.bytes.drop size⟩)
  else (none, reservoir)

instance : ByteSource Reservoir where
  fill size reservoir :=
    match reservoir.take size with
    | (some bytes, reservoir) => (.value bytes, reservoir)
    | (none, reservoir) => (.error (.sourceFailed "no bytes at hand"), reservoir)

end SortableId
