import Mathlib
import SortableId.Ulid.Text
import SortableId.Proofs.Codec

/-!
# Text forms as strings

Bytes below 128 are a valid text with one character each, so taking them for a text and taking the
bytes of that text are inverse. Symbols are such bytes: the text form of an identifier as a string
has exactly the bytes of its 26 symbols, and a string that is read strictly is in upper case the
text form of what it is read as.
-/

namespace SortableId

namespace Bytes

/-- The loop that lists a byte array has listed the bytes before its position, last first. -/
theorem listLoop_eq (bytes : ByteArray) (position : Nat) (listed : List UInt8) :
    ByteArray.toList.loop bytes position listed =
      listed.reverse ++ bytes.data.toList.drop position := by
  fun_induction ByteArray.toList.loop bytes position listed with
  | case1 position listed inside ih =>
    have place : position < bytes.data.toList.length := by simpa using inside
    rw [ih, List.drop_eq_getElem_cons place, List.reverse_cons, List.append_assoc]
    simp [ByteArray.get!, inside]
  | case2 position listed outside =>
    have past : bytes.data.toList.length ≤ position := by simpa using outside
    rw [List.drop_of_length_le past, List.append_nil]

/-- A byte array lists its data. -/
theorem toList_eq (bytes : ByteArray) : bytes.toList = bytes.data.toList :=
  listLoop_eq bytes 0 []

/-- The character of a byte below 128 is stored as that byte. -/
theorem encodeChar_of_ascii (byte : UInt8) (ascii : byte.toNat < 128) :
    String.utf8EncodeChar (Char.ofUInt8 byte) = [byte] := by
  have number : (Char.ofUInt8 byte).val.toNat = byte.toNat := by simp [Char.ofUInt8]
  have small : (Char.ofUInt8 byte).utf8Size = 1 := by
    rw [Char.utf8Size_eq_one_iff, UInt32.le_iff_toNat_le, number]
    exact Nat.le_of_lt_succ ascii
  rw [String.utf8EncodeChar_eq_singleton small]
  simp [Char.ofUInt8]

/-- Bytes below 128 are a valid text. -/
theorem isValidUTF8_of_ascii (bytes : List UInt8) (ascii : ∀ byte ∈ bytes, byte.toNat < 128) :
    (ByteArray.mk bytes.toArray).IsValidUTF8 := by
  induction bytes with
  | nil => exact ByteArray.isValidUTF8_empty
  | cons byte bytes ih =>
    have first := encodeChar_of_ascii byte (ascii byte List.mem_cons_self)
    have split : ByteArray.mk (byte :: bytes).toArray =
        (String.utf8EncodeChar (Char.ofUInt8 byte)).toByteArray ++ ByteArray.mk bytes.toArray := by
      rw [first]
      ext1
      simp
    rw [split]
    exact Char.isValidUTF8_toByteArray_utf8EncodeChar.append
      (ih fun other mem => ascii other (List.mem_cons_of_mem byte mem))

/-- Texts with the same bytes are the same. -/
theorem ofText_injective (left right : String) (same : ofText left = ofText right) :
    left = right := by
  rw [ofText, ofText, toList_eq, toList_eq] at same
  exact String.toByteArray_inj.mp (ByteArray.ext (Array.toList_inj.mp same))

/-- The bytes of a text are those of its characters. -/
theorem ofText_ofList (chars : List Char) :
    ofText (String.ofList chars) = chars.flatMap String.utf8EncodeChar := by
  rw [ofText, String.toUTF8, toList_eq, String.toByteArray_ofList, List.utf8Encode]
  simp

/-- Bytes below 128, each made a character, are the bytes of a text. -/
theorem ofText_of_ascii (bytes : List UInt8) (ascii : ∀ byte ∈ bytes, byte.toNat < 128) :
    ofText (String.ofList (bytes.map Char.ofUInt8)) = bytes := by
  rw [ofText_ofList, List.flatMap_map]
  induction bytes with
  | nil => rfl
  | cons byte bytes ih =>
    obtain ⟨first, rest⟩ := List.forall_mem_cons.mp ascii
    rw [List.flatMap_cons, encodeChar_of_ascii byte first, ih rest]
    rfl

/-- A text whose bytes are below 128 has a character for each. -/
theorem text_of_ascii (text : String) (ascii : ∀ byte ∈ ofText text, byte.toNat < 128) :
    text = String.ofList ((ofText text).map Char.ofUInt8) :=
  ofText_injective _ _ (ofText_of_ascii (ofText text) ascii).symm

/-- A text of characters below 128 has bytes below 128. -/
theorem ascii_of_chars (text : String) (ascii : ∀ char ∈ text.toList, char.val.toNat < 128) :
    ∀ byte ∈ ofText text, byte.toNat < 128 := by
  have back (char : Char) (mem : char ∈ text.toList) :
      Char.ofUInt8 char.val.toUInt8 = char := by
    have small := ascii char mem
    apply Char.ext
    apply UInt32.toNat_inj.mp
    rw [Char.ofUInt8, UInt8.toNat_toUInt32, UInt32.toNat_toUInt8]
    omega
  have small : ∀ byte ∈ text.toList.map fun char => char.val.toUInt8, byte.toNat < 128 := by
    intro byte mem
    obtain ⟨char, inside, rfl⟩ := List.mem_map.mp mem
    have small := ascii char inside
    rw [UInt32.toNat_toUInt8]
    omega
  have same : text =
      String.ofList ((text.toList.map fun char => char.val.toUInt8).map Char.ofUInt8) := by
    rw [List.map_map, ← String.toList_inj, String.toList_ofList]
    exact ((List.map_congr_left back).trans (List.map_id' _)).symm
  rw [same, ofText_of_ascii _ small]
  exact small

end Bytes

/-- A text form of bytes below 128 has them as the bytes of its string. -/
theorem Encoded.ofText_text (encoded : Encoded)
    (ascii : ∀ byte ∈ encoded.symbols.toList, byte.toNat < 128) :
    Bytes.ofText encoded.text = encoded.symbols.toList := by
  have valid : (ByteArray.mk encoded.symbols.toArray).IsValidUTF8 :=
    Bytes.isValidUTF8_of_ascii encoded.symbols.toList ascii
  rw [Encoded.text, String.fromUTF8?, dif_pos valid, Option.getD_some, Bytes.ofText,
    Bytes.toList_eq]
  rfl

namespace Base32

/-- A character is made a capital as its byte is. -/
theorem toUpper_ofUInt8 (byte : UInt8) :
    (Char.ofUInt8 byte).toUpper = Char.ofUInt8 (upper byte) := by
  have number (byte : UInt8) : (Char.ofUInt8 byte).val.toNat = byte.toNat := by simp [Char.ofUInt8]
  have range := byte.toNat_lt
  have same := number byte
  apply Char.ext
  apply UInt32.toNat_inj.mp
  rw [number, toNat_upper, Char.toUpper]
  simp only [UInt32.le_iff_toNat_le]
  by_cases small : 97 ≤ byte.toNat ∧ byte.toNat ≤ 122
  · have shift : ('A'.val - 'a'.val).toNat = 2 ^ 32 - 32 := by decide
    rw [if_pos small, dif_pos (by rwa [same]), UInt32.toNat_add, same, shift]
    omega
  · rw [if_neg small, dif_neg (by rwa [same]), same]

/-- The bytes of a text below 128 are made capitals with it. -/
theorem ofText_toUpper (text : String) (ascii : ∀ byte ∈ Bytes.ofText text, byte.toNat < 128) :
    Bytes.ofText text.toUpper = (Bytes.ofText text).map upper := by
  have capitals : text.toUpper =
      String.ofList (((Bytes.ofText text).map upper).map Char.ofUInt8) := by
    calc text.toUpper
        = (String.ofList ((Bytes.ofText text).map Char.ofUInt8)).toUpper := by
          rw [← Bytes.text_of_ascii text ascii]
      _ = String.ofList (((Bytes.ofText text).map Char.ofUInt8).map Char.toUpper) := by
          rw [String.toUpper, ← String.toList_inj, String.toList_map, String.toList_ofList,
            String.toList_ofList]
      _ = String.ofList (((Bytes.ofText text).map upper).map Char.ofUInt8) := by
          rw [List.map_map, List.map_map]
          congr 2
          funext byte
          exact toUpper_ofUInt8 byte
  rw [capitals, Bytes.ofText_of_ascii]
  intro byte mem
  obtain ⟨other, inside, rfl⟩ := List.mem_map.mp mem
  have small := ascii other inside
  rw [toNat_upper]
  split <;> omega

/-- Only characters below 128 are made capitals below 128. -/
theorem ascii_of_toUpper (char : Char) (small : char.toUpper.val.toNat < 128) :
    char.val.toNat < 128 := by
  rw [Char.toUpper] at small
  split at small
  · rename_i letter
    simp only [UInt32.le_iff_toNat_le] at letter
    have last : 'z'.val.toNat = 122 := rfl
    omega
  · exact small

/-- The alphabet has bytes below 128, also in lower case. -/
theorem ascii_of_inAlphabet (byte : UInt8) (known : InAlphabet byte) : byte.toNat < 128 := by
  have checked : symbols.all (fun byte => decide (byte.toNat < 128)) = true := by decide
  have small := of_decide_eq_true (List.all_eq_true.mp checked _ known)
  rw [toNat_upper] at small
  split at small
  · omega
  · exact small

/-- Symbols are bytes below 128. -/
theorem symbol_ascii (slice : UInt8) : (symbol slice).toNat < 128 :=
  ascii_of_inAlphabet (symbol slice) (inAlphabet_symbol slice)

/-- A text form is written in bytes below 128. -/
theorem encode_ascii (id : Vector UInt8 16) : ∀ byte ∈ (encode id).toList, byte.toNat < 128 := by
  rw [encode_eq_map]
  intro byte mem
  obtain ⟨slice, -, rfl⟩ := List.mem_map.mp mem
  exact symbol_ascii slice

end Base32

namespace Ulid

/-- The text form as a string has the bytes of its symbols. -/
theorem ofText_text (id : Ulid) : Bytes.ofText id.text = id.encoded.symbols.toList :=
  Encoded.ofText_text id.encoded (Base32.encode_ascii id.bytes)

/-- The text form is read back, in both modes. -/
theorem parse_text (mode : Base32.Mode) (id : Ulid) : parse mode id.text = .ok id := by
  have read : Base32.decode mode id.encoded.symbols.toList = .ok id.bytes :=
    Base32.decode_encode mode id.bytes
  rw [parse, ofText_text, read]
  rfl

/-- Identifiers with the same text are the same. -/
theorem text_injective (left right : Ulid) (same : left.text = right.text) : left = right := by
  have read := parse_text .strict left
  rw [same, parse_text] at read
  exact (Except.ok.inj read).symm

/-- The text form has a character for each symbol. -/
theorem text_eq (id : Ulid) :
    id.text = String.ofList (id.encoded.symbols.toList.map Char.ofUInt8) := by
  rw [← ofText_text]
  apply Bytes.text_of_ascii
  rw [ofText_text]
  exact Base32.encode_ascii id.bytes

/-- The text form is written in characters of the alphabet. -/
theorem text_in_alphabet (id : Ulid) : ∀ char ∈ id.text.toList, char ∈ Base32.alphabet.toList := by
  have checked : (Base32.symbols.all fun byte =>
      decide (Char.ofUInt8 byte ∈ Base32.alphabet.toList)) = true := by
    decide +kernel
  rw [text_eq, String.toList_ofList, encoded, Base32.encode_eq_map, List.map_map]
  intro char mem
  obtain ⟨slice, -, rfl⟩ := List.mem_map.mp mem
  exact of_decide_eq_true (List.all_eq_true.mp checked _ (Base32.symbol_mem slice))

/-- A text that is read strictly is the text form up to case. -/
theorem text_of_parse (text : String) (id : Ulid) (read : parse .strict text = .ok id) :
    id.text = text.toUpper := by
  rw [parse] at read
  cases decoded : Base32.decode .strict (Bytes.ofText text) with
  | error cause =>
    rw [decoded] at read
    exact nomatch read
  | ok bytes =>
    rw [decoded] at read
    obtain rfl : Ulid.mk bytes = id := Except.ok.inj read
    have wellFormed := Base32.wellFormed_of_decode _ bytes decoded
    have same := Base32.toNat_of_decode _ bytes decoded
    have spelled := Base32.encode_of_number _ bytes wellFormed same
    have ascii := fun byte mem => Base32.ascii_of_inAlphabet byte (wellFormed.known byte mem)
    apply Bytes.ofText_injective
    rw [ofText_text, Base32.ofText_toUpper text ascii, ← spelled]
    rfl

/-- The text form of an identifier is read as it, in any mix of cases and in both modes. -/
theorem parse_of_toUpper (mode : Base32.Mode) (text : String) (id : Ulid)
    (same : text.toUpper = id.text) : parse mode text = .ok id := by
  have chars : text.toList.map Char.toUpper = id.encoded.symbols.toList.map Char.ofUInt8 := by
    have lists := congrArg String.toList same
    rwa [text_eq, String.toList_ofList, String.toUpper, String.toList_map] at lists
  have ascii := Bytes.ascii_of_chars text fun char mem => by
    have capital : char.toUpper ∈ text.toList.map Char.toUpper := List.mem_map_of_mem mem
    rw [chars] at capital
    obtain ⟨byte, written, made⟩ := List.mem_map.mp capital
    apply Base32.ascii_of_toUpper
    rw [← made, Char.ofUInt8, UInt8.toNat_toUInt32]
    exact Base32.encode_ascii id.bytes byte written
  have capitals := congrArg Bytes.ofText same
  rw [Base32.ofText_toUpper text ascii, ofText_text] at capitals
  rw [parse, Base32.decode_of_upper mode _ id.bytes capitals]
  rfl

/-- A text is read strictly as an identifier exactly when it is the text form of it, in any mix of
cases. -/
theorem parse_eq_ok_iff (text : String) (id : Ulid) :
    parse .strict text = .ok id ↔ text.toUpper = id.text :=
  ⟨fun read => (text_of_parse text id read).symm, parse_of_toUpper .strict text id⟩

end Ulid

end SortableId
