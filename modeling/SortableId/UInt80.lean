import SortableId.Bytes

/-!
# Unsigned integers of 80 bits

An entropy field as a number: a high word of 16 bits and a low word of 64 bits. `toNat` is the
number denoted. Addition of a 64-bit number reports an 80-bit wrap, and checked addition refuses
it; a carry out of the low word alone is neither.
-/

namespace SortableId

/-- An unsigned 80-bit integer. -/
structure UInt80 where
  /-- The high 16 bits. -/
  hi : UInt16
  /-- The low 64 bits. -/
  lo : UInt64
  deriving DecidableEq, Repr, Inhabited

namespace UInt80

/-- The number denoted. -/
def toNat (value : UInt80) : Nat := value.hi.toNat * UInt64.size + value.lo.toNat

/-- The value zero. -/
def zero : UInt80 := ⟨0, 0⟩

/-- The largest value. -/
def max : UInt80 := ⟨0xFFFF, 0xFFFFFFFFFFFFFFFF⟩

/-- Whether both words are zero. -/
def isZero (value : UInt80) : Bool := value.hi == 0 && value.lo == 0

/-- Loads ten big-endian bytes. -/
def ofBytes (bytes : Vector UInt8 10) : UInt80 where
  hi := UInt16.ofNat (Bytes.toNat (bytes.take 2).toList)
  lo := UInt64.ofNat (Bytes.toNat (bytes.drop 2).toList)

/-- Stores ten big-endian bytes. -/
def toBytes (value : UInt80) : Vector UInt8 10 :=
  Bytes.ofNat 2 value.hi.toNat ++ Bytes.ofNat 8 value.lo.toNat

/-- The high word decides, then the low word. -/
instance : Ord UInt80 where
  compare left right := (compare left.hi right.hi).then (compare left.lo right.lo)

/-- The larger of two values. -/
instance : Max UInt80 where
  max left right := if (compare left right).isLE then right else left

/-- The wrapped sum, and whether it wrapped past 80 bits: only a carry that the high word cannot
take is a wrap. -/
def overflowingAdd (value : UInt80) (addend : UInt64) : UInt80 × Bool :=
  let lo := value.lo + addend
  if lo < value.lo then
    let hi := value.hi + 1
    (⟨hi, lo⟩, hi == 0)
  else (⟨value.hi, lo⟩, false)

/-- The sum, unless it wraps past 80 bits. -/
def checkedAdd (value : UInt80) (addend : UInt64) : Option UInt80 :=
  match value.overflowingAdd addend with
  | (sum, false) => some sum
  | (_, true) => none

/-- The values of a run of checked additions, in which a refused addend keeps the value; a
refusal is `none` in the list. The last component is the value at the end. -/
def addAll (value : UInt80) : List UInt64 → List (Option UInt80) × UInt80
  | [] => ([], value)
  | addend :: rest =>
    let step := value.checkedAdd addend
    let (steps, last) := addAll (step.getD value) rest
    (step :: steps, last)

end UInt80

end SortableId
