import Mathlib
import SortableId.Proofs.Fields
import SortableId.Proofs.TextBytes

/-!
# One order on identifiers

The bytes of an identifier, the number it denotes, its two fields, its text form and its text as a
string are five things to compare, and all give the same answer. Slices of five bits do not end
where bytes do, so the order of the texts goes through the numbers: the slices are the digits of
the number in base 32, and the symbols are ordered as the digits.
-/

namespace SortableId

/-- Text forms are ordered as the numbers that the sixteen bytes denote. -/
theorem Base32.compare_encode (left right : Vector UInt8 16) :
    compare (encode left).toList (encode right).toList =
      compare (Bytes.toNat left.toList) (Bytes.toNat right.toList) := by
  rw [encode_eq_map, encode_eq_map, Bytes.compare_map_congr symbol sliceDigit compare_symbol,
    Positional.compare_value 32 (by decide) _ _ (by simp [length_idSlices]) (sliceDigits_ranged _)
      (sliceDigits_ranged _), value_idSlices _ Vector.length_toList,
    value_idSlices _ Vector.length_toList]

namespace Ulid

/-- The timestamps decide, then the entropy values. -/
theorem compare_fields (left right : Ulid) :
    compare left right =
      (compare left.timestamp right.timestamp).then
        (compare left.entropyValue right.entropyValue) := by
  have times : compare left.timestamp right.timestamp =
      compare left.timestamp.toNat right.timestamp.toNat := by
    simp only [compare, compareOfLessAndEq, UInt64.lt_iff_toNat_lt, ← UInt64.toNat_inj]
  rw [compare_toNat, toNat_fields, toNat_fields,
    Positional.compare_parts _ _ _ _ _ (UInt80.toNat_lt _) (UInt80.toNat_lt _), times,
    UInt80.compare_toNat]

/-- The text forms decide. -/
theorem compare_encoded (left right : Ulid) :
    compare left right = compare left.encoded right.encoded := by
  rw [compare_toNat]
  exact (Base32.compare_encode left.bytes right.bytes).symm

/-- The bytes of the text as a string decide. -/
theorem compare_text (left right : Ulid) :
    compare left right = compare (Bytes.ofText left.text) (Bytes.ofText right.text) := by
  rw [ofText_text, ofText_text, compare_encoded]
  rfl

/-- The bytes, the numbers, the fields, the texts and the text forms of two identifiers compare
alike. A smaller timestamp is enough to be smaller, and only an identifier itself has its text. -/
theorem orders_coincide (left right : Ulid) :
    compare left right = compare left.toNat right.toNat ∧
    compare left right =
      (compare left.timestamp right.timestamp).then
        (compare left.entropyValue right.entropyValue) ∧
    compare left right = compare (Bytes.ofText left.text) (Bytes.ofText right.text) ∧
    compare left right = compare left.encoded right.encoded ∧
    (left.timestamp < right.timestamp → compare left right = .lt) ∧
    (left.text = right.text ↔ left = right) := by
  refine ⟨compare_toNat left right, compare_fields left right, compare_text left right,
    compare_encoded left right, ?_, text_injective left right, congrArg text⟩
  intro earlier
  have times : compare left.timestamp right.timestamp = .lt := by
    simp only [compare, compareOfLessAndEq, if_pos earlier]
  rw [compare_fields, times, Ordering.lt_then]

end Ulid

end SortableId
