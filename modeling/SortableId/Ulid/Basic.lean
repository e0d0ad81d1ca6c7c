import SortableId.Base32
import SortableId.UInt80
import SortableId.Instant

/-!
# Identifiers

An identifier is sixteen bytes: a 48-bit timestamp in milliseconds, then 80 bits of entropy, both
big-endian. `Ulid.toNat` is the 128-bit number that the bytes denote. The order is that of the
bytes, so the timestamp decides first.
-/

namespace SortableId

/-- A sortable identifier of 128 bits. -/
structure Ulid where
  /-- The bytes, most significant first. -/
  bytes : Vector UInt8 16
  deriving DecidableEq, Repr

namespace Ulid

/-- The identifier of zero bits, which stands for "unset" but is valid. -/
def zero : Ulid := ⟨Vector.replicate 16 0⟩

instance : Inhabited Ulid := ⟨zero⟩

/-- The largest identifier. -/
def max : Ulid := ⟨Vector.replicate 16 0xFF⟩

/-- The 128-bit number denoted. -/
def toNat (id : Ulid) : Nat := Bytes.toNat id.bytes.toList

/-- The identifier of a number's low 128 bits. -/
def ofNat (value : Nat) : Ulid := ⟨Bytes.ofNat 16 value⟩

/-- Takes exactly sixteen bytes. -/
def ofSlice (data : List UInt8) : Except Error Ulid :=
  match Bytes.sized? 16 data with
  | some bytes => .ok ⟨bytes⟩
  | none => .error (.dataSize binaryLength data.length)

/-- An identifier is taken from its sixteen bytes and from no others. -/
theorem ofSlice_eq_ok_iff {data : List UInt8} {id : Ulid} :
    ofSlice data = .ok id ↔ id.bytes.toList = data := by
  rw [ofSlice]
  cases taken : Bytes.sized? 16 data with
  | none =>
    have other := Bytes.sized?_eq_none_iff.mp taken
    simp only [reduceCtorEq, false_iff]
    rintro rfl
    exact other Vector.length_toList
  | some bytes =>
    rw [← Bytes.sized?_eq_some_iff, taken, Option.some.injEq, Except.ok.injEq]
    constructor
    · rintro rfl
      rfl
    · rintro rfl
      rfl

/-- Bytes of another count are refused for it. -/
theorem ofSlice_of_length {data : List UInt8} (other : data.length ≠ 16) :
    ofSlice data = .error (.dataSize 16 data.length) := by
  rw [ofSlice, Bytes.sized?_eq_none_iff.mpr other]
  rfl

/-- The timestamp in milliseconds since 1970. -/
def timestamp (id : Ulid) : UInt64 :=
  UInt64.ofNat (Bytes.toNat (id.bytes.take 6).toList)

/-- The timestamp as a point in time. -/
def instant (id : Ulid) : Instant := Instant.ofMillis id.timestamp

/-- The ten bytes of entropy. -/
def entropy (id : Ulid) : Vector UInt8 10 := id.bytes.drop 6

/-- The entropy as an 80-bit number. -/
def entropyValue (id : Ulid) : UInt80 := UInt80.ofBytes id.entropy

/-- Replaces the timestamp, which must fit in 48 bits. -/
def withTime (id : Ulid) (ms : UInt64) : Except Error Ulid :=
  if ms > maxTime then .error (.bigTime ms)
  else .ok ⟨Bytes.ofNat 6 ms.toNat ++ id.entropy⟩

/-- Replaces the entropy by ten bytes. -/
def withEntropyBytes (id : Ulid) (entropy : Vector UInt8 10) : Ulid :=
  ⟨id.bytes.take 6 ++ entropy⟩

/-- Replaces the entropy by bytes that must be ten. -/
def withEntropy (id : Ulid) (entropy : List UInt8) : Except Error Ulid :=
  match Bytes.sized? 10 entropy with
  | some bytes => .ok (id.withEntropyBytes bytes)
  | none => .error (.dataSize entropyLength entropy.length)

/-- Assembles an identifier from its two fields. -/
def ofParts (ms : UInt64) (entropy : UInt80) : Except Error Ulid :=
  (zero.withTime ms).map (·.withEntropyBytes entropy.toBytes)

/-- Bytes decide from the left. -/
instance : Ord Ulid where
  compare left right := compare left.bytes.toList right.bytes.toList

instance : LT Ulid := ltOfOrd

instance : DecidableLT Ulid := inferInstanceAs (DecidableRel fun left right : Ulid =>
  compare left right = .lt)

/-- The order of the bytes is transitive and total. -/
instance : Std.TransOrd Ulid where
  eq_swap := Std.OrientedOrd.eq_swap (α := List UInt8)
  isLE_trans := Std.TransOrd.isLE_trans (α := List UInt8)

/-- Only equal identifiers compare as equal. -/
instance : Std.LawfulEqOrd Ulid where
  eq_of_compare {left right} h := by
    have bytes := Std.LawfulEqOrd.eq_of_compare (α := List UInt8) h
    cases left
    cases right
    simpa [Vector.toList_inj] using bytes
  compare_self := Std.ReflOrd.compare_self (α := List UInt8)

/-- Whether the identifier is the one of zero bits. -/
def isZero (id : Ulid) : Bool := compare id zero == .eq

/-- Identifiers in ascending order, repetitions kept. -/
def sort (ids : List Ulid) : List Ulid :=
  ids.mergeSort fun left right => (compare left right).isLE

/-- Identifiers without their repetitions. -/
def distinct (ids : List Ulid) : List Ulid := ids.eraseDups

/-- Whether each identifier is above the one before it. -/
def increasing : List Ulid → Bool
  | first :: second :: rest => (compare first second).isLT && increasing (second :: rest)
  | _ => true

/-- The timestamps that occur, in the order of their first occurrence. -/
def times (ids : List Ulid) : List UInt64 := (ids.map timestamp).eraseDups

end Ulid

end SortableId
