/-!
# Big-endian bytes

A byte sequence denotes a number with its most significant byte first. `Bytes.toNat` reads it and
`Bytes.ofNat` writes the low bytes of a number; each is the other's inverse on numbers that fit.
-/

namespace SortableId.Bytes

/-- The number that the bytes denote. -/
def toNat (bytes : List UInt8) : Nat :=
  bytes.foldl (fun high byte => high * 256 + byte.toNat) 0

/-- The low `size` bytes of a number. -/
def ofNat (size value : Nat) : Vector UInt8 size :=
  Vector.ofFn fun index => UInt8.ofNat (value >>> (8 * (size - 1 - index.val)))

/-- Bytes with a known count, when the count is right. -/
def sized? (size : Nat) (bytes : List UInt8) : Option (Vector UInt8 size) :=
  if h : bytes.length = size then some ⟨bytes.toArray, by simpa using h⟩ else none

/-- Bytes are taken as those of a vector exactly when they are its list. -/
theorem sized?_eq_some_iff {size : Nat} {bytes : List UInt8} {vector : Vector UInt8 size} :
    sized? size bytes = some vector ↔ vector.toList = bytes := by
  by_cases right : bytes.length = size
  · rw [sized?, dif_pos right, Option.some.injEq, ← Vector.toList_inj]
    exact eq_comm
  · rw [sized?, dif_neg right]
    constructor
    · intro taken
      cases taken
    · rintro rfl
      exact absurd Vector.length_toList right

/-- Bytes are refused exactly when their count is wrong. -/
theorem sized?_eq_none_iff {size : Nat} {bytes : List UInt8} :
    sized? size bytes = none ↔ bytes.length ≠ size := by
  by_cases right : bytes.length = size <;> simp [sized?, right]

/-- The bytes of a text in its standard encoding. -/
def ofText (text : String) : List UInt8 := text.toUTF8.toList

/-- `size` bytes that repeat a pattern from its start, or zeros when there is no pattern. -/
def cycle (size : Nat) (pattern : List UInt8) : Vector UInt8 size :=
  let pattern := pattern.toArray
  Vector.ofFn fun index => pattern[index.val % pattern.size]?.getD 0

end SortableId.Bytes
