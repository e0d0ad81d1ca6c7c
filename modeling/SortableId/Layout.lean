/-!
# Field sizes

An identifier has 128 bits: a 48-bit timestamp in milliseconds since 1970, then 80 bits of
entropy. Its text form has 26 symbols of five bits. The sizes that the other modules share are
named here.
-/

namespace SortableId

/-- Bytes of an identifier. -/
def binaryLength : Nat := 16

/-- Symbols of an identifier's text form. -/
def encodedLength : Nat := 26

/-- Bytes of the entropy field. -/
def entropyLength : Nat := 10

/-- The largest timestamp of 48 bits, in milliseconds. -/
def maxTime : UInt64 := 0xFFFFFFFFFFFF

end SortableId
