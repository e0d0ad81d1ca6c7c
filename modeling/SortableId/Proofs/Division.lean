import Mathlib
import SortableId.Proofs.TextBytes

/-!
# Symbols by division

The text form of an identifier has the digits in base 32 of the number that its sixteen bytes
denote: dividing that number by 32 again and again gives the symbols from the last to the first.
The number has 128 bits, so the first symbol stands for three of them, and all symbols are bytes
of text, so the string that they are shown as is never the empty one in place of them.
-/

namespace SortableId.Base32

/-- The symbol at a place of the alphabet. -/
def symbolAt (place : Nat) : UInt8 := symbols.getD place 0

/-- There is a symbol at every place below 32. -/
theorem getElem?_symbolAt (place : Nat) (small : place < 32) :
    symbols[place]? = some (symbolAt place) := by
  have inside : place < symbols.length := small
  rw [symbolAt, List.getD_eq_getElem _ _ inside, List.getElem?_eq_getElem inside]

/-- A symbol is the one at the place that its slice gives. -/
theorem symbol_eq_symbolAt (slice : UInt8) : symbol slice = symbolAt (sliceDigit slice) := by
  rw [symbolAt, sliceDigit, List.getD_eq_getElem?_getD, getElem?_symbols, Option.getD_some]

/-- The slices of an identifier are the digits of its number by division. -/
theorem sliceDigits_eq (id : Vector UInt8 16) :
    (idSlices id.toList).map sliceDigit = Positional.digits 32 26 (Bytes.toNat id.toList) := by
  have same := Positional.digits_value 32 _ (sliceDigits_ranged (idSlices id.toList))
  rw [List.length_map, length_idSlices, value_idSlices _ Vector.length_toList] at same
  exact same.symm

/-- Writing is division: the symbols are the digits of the number, each at its place of the
alphabet. -/
theorem encode_eq_digits (id : Vector UInt8 16) :
    (encode id).toList = (Positional.digits 32 26 (Bytes.toNat id.toList)).map symbolAt := by
  rw [encode_eq_map, ← sliceDigits_eq, List.map_map]
  exact List.map_congr_left fun slice _ => symbol_eq_symbolAt slice

/-- The symbol written at a place stands for the digit of the number there. -/
theorem getElem_encode (id : Vector UInt8 16) (place : Nat) (inside : place < 26) :
    (encode id)[place] = symbolAt (Bytes.toNat id.toList / 32 ^ (25 - place) % 32) := by
  have written : (encode id).toList[place]? = some (encode id)[place] := by simp [inside]
  have digit := Positional.getElem?_digits 32 26 (Bytes.toNat id.toList) place inside
  rw [encode_eq_digits, List.getElem?_map, digit, Option.map_some] at written
  exact (Option.some.inj written).symm

/-- The first symbol written stands for three bits. -/
theorem first_of_encode (id : Vector UInt8 16) :
    '0'.toUInt8 ≤ (encode id).head ∧ (encode id).head ≤ '7'.toUInt8 := by
  have formed := wellFormed_encode id
  have head : (encode id).toList.getD 0 0 = (encode id).head := rfl
  have member : (encode id).head ∈ (encode id).toList := by simp [Vector.head]
  have leading := formed.leading
  rw [head] at leading
  exact (threeBits_iff _).mp ⟨formed.known _ member, leading⟩

/-- The bytes written are a valid text, which has them as its bytes. -/
theorem fromUTF8?_encode (id : Vector UInt8 16) :
    ∃ text, String.fromUTF8? ⟨(encode id).toArray⟩ = some text ∧
      (Encoded.mk (encode id)).text = text ∧ Bytes.ofText text = (encode id).toList := by
  have valid : (ByteArray.mk (encode id).toArray).IsValidUTF8 :=
    Bytes.isValidUTF8_of_ascii (encode id).toList (encode_ascii id)
  have read : String.fromUTF8? ⟨(encode id).toArray⟩ = some (String.fromUTF8 _ valid) :=
    dif_pos valid
  have shown : (Encoded.mk (encode id)).text = String.fromUTF8 _ valid := by
    rw [Encoded.text, read, Option.getD_some]
  refine ⟨_, read, shown, ?_⟩
  rw [← shown]
  exact Encoded.ofText_text ⟨encode id⟩ (encode_ascii id)

/-- An identifier is written as its number is by division: the symbol at each place is the one of
the alphabet for the quotient by a power of 32, less its higher digits. So the first symbol is a
digit up to 7, every byte is a symbol in upper case, and the bytes are a valid text: the empty
string is never shown in its place. -/
theorem encode_by_division (id : Vector UInt8 16) :
    let number := Bytes.toNat id.toList
    (encode id).toList = (Positional.digits 32 26 number).map symbolAt ∧
    (∀ place (inside : place < 26),
      symbols[number / 32 ^ (25 - place) % 32]? = some (encode id)[place]) ∧
    ('0'.toUInt8 ≤ (encode id).head ∧ (encode id).head ≤ '7'.toUInt8) ∧
    (∀ byte ∈ (encode id).toList, byte ∈ symbols) ∧
    ∃ text, String.fromUTF8? ⟨(encode id).toArray⟩ = some text ∧
      (Encoded.mk (encode id)).text = text ∧ Bytes.ofText text = (encode id).toList := by
  intro number
  refine ⟨encode_eq_digits id, fun place inside => ?_, first_of_encode id,
    mem_symbols_of_encode id, fromUTF8?_encode id⟩
  have small : number / 32 ^ (25 - place) % 32 < 32 := Nat.mod_lt _ (by decide)
  rw [getElem_encode id place inside]
  exact getElem?_symbolAt _ small

end SortableId.Base32
