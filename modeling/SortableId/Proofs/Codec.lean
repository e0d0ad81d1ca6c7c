import Mathlib
import SortableId.Proofs.Alphabet
import SortableId.Proofs.Slices

/-!
# Reading and writing text forms

Strict reading accepts the well-formed texts and no others, and reads each as the number whose
digits in base 32 it spells; writing that number gives the text back in upper case. Every text
that is refused is refused for the first of three reasons that applies: its length, its first byte
outside the alphabet, a first symbol above 7. What is written is read back in both modes.
-/

namespace SortableId.Base32

/-- A text form: 26 bytes of the alphabet, of which the first stands for at most 7. -/
structure WellFormed (text : List UInt8) : Prop where
  /-- It has one byte for each symbol. -/
  length : text.length = 26
  /-- Its bytes are in the alphabet, up to case. -/
  known : ∀ byte ∈ text, InAlphabet byte
  /-- Its first byte stands for three bits. -/
  leading : digit (text.getD 0 0) ≤ 7

/-- The number that 26 bytes of text spell: what each stands for, times the power of 32 at its
place. -/
def number (text : List UInt8) : Nat :=
  ∑ place ∈ Finset.range 26, digit (text.getD place 0) * 32 ^ (25 - place)

/-- The number spelled is the one that the places in the alphabet denote as digits. -/
theorem number_eq_value (text : List UInt8) (length : text.length = 26) :
    number text = Positional.value 32 (text.map digit) := by
  rw [Positional.value_eq_sum, List.length_map, length]
  apply Finset.sum_congr rfl
  intro place mem
  have inside : place < text.length := length ▸ Finset.mem_range.mp mem
  simp [List.getD_eq_getElem?_getD, inside]

/-- Places in the alphabet are digits in base 32. -/
theorem digits_ranged (text : List UInt8) (known : ∀ byte ∈ text, InAlphabet byte) :
    ∀ place ∈ text.map digit, place < 32 := by
  intro place mem
  obtain ⟨byte, member, rfl⟩ := List.mem_map.mp mem
  exact digit_lt byte (known byte member)

/-- No byte is foreign when all are in the alphabet. -/
theorem firstForeign_eq_none (text : List UInt8) (known : ∀ byte ∈ text, InAlphabet byte) :
    firstForeign text = none := by
  rw [firstForeign, List.find?_eq_none]
  rintro ⟨byte, index⟩ mem
  have member : byte ∈ text := List.fst_mem_of_mem_zipIdx mem
  simpa [value_eq_sentinel_iff] using known byte member

/-- The first foreign byte is the one before which all are in the alphabet. -/
theorem firstForeign_eq_some (before after : List UInt8) (byte : UInt8)
    (known : ∀ other ∈ before, InAlphabet other) (unknown : ¬ InAlphabet byte) :
    firstForeign (before ++ byte :: after) = some (byte, before.length) := by
  have earlier := firstForeign_eq_none before known
  have marked := (value_eq_sentinel_iff byte).mpr unknown
  rw [firstForeign] at earlier
  rw [firstForeign, List.zipIdx_append, List.find?_append, earlier, List.zipIdx_cons,
    List.find?_cons_of_pos (by simpa using marked), Option.none_or, Nat.zero_add]

/-- A text of the right length is read symbol by symbol. -/
theorem decode_toList (mode : Mode) (text : Vector UInt8 26) :
    decode mode text.toList = decodeSymbols mode text := by
  rw [decode, dif_pos (by simp)]
  rfl

/-- The first byte of a text stands for the first value read from it. -/
theorem digit_first (text : Vector UInt8 26) (known : ∀ byte ∈ text.toList, InAlphabet byte) :
    digit (text.toList.getD 0 0) = ((text.map value).toList.getD 0 0).toNat := by
  have member : text[0] ∈ text.toList := by simp
  have head : text.toList.getD 0 0 = text[0] := by simp [List.getD_eq_getElem?_getD]
  have mapped : (text.map value).toList.getD 0 0 = value text[0] := by
    simp [List.getD_eq_getElem?_getD]
  rw [head, mapped, toNat_value _ (known _ member)]

/-- A text of the right length in the alphabet is refused only for its first symbol, in both
modes. -/
theorem decodeSymbols_of_known (mode : Mode) (text : Vector UInt8 26)
    (known : ∀ byte ∈ text.toList, InAlphabet byte) :
    decodeSymbols mode text =
      if 7 < digit (text.toList.getD 0 0) then .error .overflow
      else .ok (assemble (text.map value)) := by
  have accepted := firstForeign_eq_none _ known
  have first : (text.map value).toList.getD 0 0 = (text.map value)[0] := by
    simp [List.getD_eq_getElem?_getD]
  rw [digit_first text known, first]
  cases mode with
  | strict =>
    simp only [decodeSymbols, accepted]
    rfl
  | lenient =>
    simp only [decodeSymbols]
    rfl

/-- The bytes put together from a well-formed text denote the number that it spells. -/
theorem toNat_assemble_value (text : Vector UInt8 26) (wellFormed : WellFormed text.toList) :
    Bytes.toNat (assemble (text.map value)).toList = number text.toList := by
  have digits : (text.map value).toList.map UInt8.toNat = text.toList.map digit := by
    rw [Vector.toList_map, List.map_map]
    exact List.map_congr_left fun byte mem => toNat_value byte (wellFormed.known byte mem)
  rw [number_eq_value _ wellFormed.length, ← digits]
  apply toNat_assemble
  · rw [digits]
    exact digits_ranged _ wellFormed.known
  · rw [← digit_first text wellFormed.known]
    exact wellFormed.leading

/-- A text of the wrong length is refused for its length. -/
theorem decode_of_length (mode : Mode) (text : List UInt8) (length : text.length ≠ 26) :
    decode mode text = .error (.dataSize 26 text.length) := by
  rw [decode, dif_neg length]
  rfl

/-- A text of the right length is the list of a vector. -/
theorem exists_toList (text : List UInt8) (length : text.length = 26) :
    ∃ symbols : Vector UInt8 26, symbols.toList = text :=
  ⟨⟨text.toArray, length⟩, rfl⟩

/-- Strict reading refuses a text of the right length for its first byte outside the alphabet. -/
theorem decode_of_foreign (before after : List UInt8) (byte : UInt8)
    (length : (before ++ byte :: after).length = 26)
    (known : ∀ other ∈ before, InAlphabet other) (unknown : ¬ InAlphabet byte) :
    decode .strict (before ++ byte :: after) = .error (.invalidCharacter byte before.length) := by
  obtain ⟨symbols, same⟩ := exists_toList _ length
  have first := firstForeign_eq_some before after byte known unknown
  rw [← same] at first
  rw [← same, decode_toList]
  simp only [decodeSymbols, first]

/-- A text of the right length in the alphabet is refused when its first symbol is above 7. -/
theorem decode_of_overflow (mode : Mode) (text : List UInt8) (length : text.length = 26)
    (known : ∀ byte ∈ text, InAlphabet byte) (large : 7 < digit (text.getD 0 0)) :
    decode mode text = .error .overflow := by
  obtain ⟨symbols, rfl⟩ := exists_toList text length
  rw [decode_toList, decodeSymbols_of_known mode symbols known, if_pos large]

/-- A well-formed text is read as the number that it spells. -/
theorem decode_of_wellFormed (mode : Mode) (text : List UInt8) (wellFormed : WellFormed text) :
    ∃ id, decode mode text = .ok id ∧ Bytes.toNat id.toList = number text := by
  obtain ⟨symbols, rfl⟩ := exists_toList text wellFormed.length
  refine ⟨assemble (symbols.map value), ?_, toNat_assemble_value symbols wellFormed⟩
  rw [decode_toList, decodeSymbols_of_known mode symbols wellFormed.known,
    if_neg (Nat.not_lt.mpr wellFormed.leading)]

/-- Of a list in which not all items have a property the first one without it can be found. -/
theorem exists_first {α : Type} (property : α → Prop) [DecidablePred property] (list : List α)
    (failing : ¬ ∀ item ∈ list, property item) :
    ∃ before item after, list = before ++ item :: after ∧
      (∀ other ∈ before, property other) ∧ ¬ property item := by
  have found : (list.find? fun item => !decide (property item)).isSome := by
    rw [List.find?_isSome]
    push Not at failing
    obtain ⟨item, mem, fails⟩ := failing
    exact ⟨item, mem, by simpa using fails⟩
  obtain ⟨item, first⟩ := Option.isSome_iff_exists.mp found
  obtain ⟨fails, before, after, split, holds⟩ := List.find?_eq_some_iff_append.mp first
  exact ⟨before, item, after, split, by simpa using holds, by simpa using fails⟩

/-- Strict reading accepts well-formed texts only. -/
theorem wellFormed_of_decode (text : List UInt8) (id : Vector UInt8 16)
    (read : decode .strict text = .ok id) : WellFormed text := by
  have length : text.length = 26 := by
    by_contra other
    rw [decode_of_length _ _ other] at read
    exact nomatch read
  have known : ∀ byte ∈ text, InAlphabet byte := by
    by_contra foreign
    obtain ⟨before, byte, after, rfl, known, unknown⟩ := exists_first InAlphabet text foreign
    rw [decode_of_foreign before after byte length known unknown] at read
    exact nomatch read
  have leading : digit (text.getD 0 0) ≤ 7 := by
    by_contra large
    rw [decode_of_overflow _ text length known (Nat.lt_of_not_le large)] at read
    exact nomatch read
  exact ⟨length, known, leading⟩

/-- What strict reading gives is the number that the text spells. -/
theorem toNat_of_decode (text : List UInt8) (id : Vector UInt8 16)
    (read : decode .strict text = .ok id) : Bytes.toNat id.toList = number text := by
  obtain ⟨other, readOther, same⟩ :=
    decode_of_wellFormed .strict text (wellFormed_of_decode text id read)
  obtain rfl : id = other := Except.ok.inj (read.symm.trans readOther)
  exact same

/-- Slices with the digits of a text are written as the text in upper case. -/
theorem map_symbol_eq (slices text : List UInt8) (known : ∀ byte ∈ text, InAlphabet byte)
    (same : slices.map sliceDigit = text.map digit) : slices.map symbol = text.map upper := by
  apply List.ext_getElem
  · simpa using congrArg List.length same
  · intro place inSlices inText
    simp only [List.length_map] at inSlices inText
    have digits : sliceDigit slices[place] = digit text[place] := by
      have entries := congrArg (·[place]?) same
      simpa [inSlices, inText] using entries
    simp only [List.getElem_map]
    exact symbol_of_digit _ _ (known _ (List.getElem_mem inText)) digits

/-- Writing the number that a text spells gives the text in upper case. -/
theorem encode_of_number (text : List UInt8) (id : Vector UInt8 16) (wellFormed : WellFormed text)
    (same : Bytes.toNat id.toList = number text) : (encode id).toList = text.map upper := by
  rw [number_eq_value _ wellFormed.length, ← value_idSlices _ Vector.length_toList] at same
  have lengths : ((idSlices id.toList).map sliceDigit).length = (text.map digit).length := by
    rw [List.length_map, List.length_map, length_idSlices, wellFormed.length]
  have digits := Positional.value_injective 32 (by decide) _ _ lengths (sliceDigits_ranged _)
    (digits_ranged text wellFormed.known) same
  rw [encode_eq_map, map_symbol_eq _ _ wellFormed.known digits]

/-- Symbols stand for the slices that they were made of. -/
theorem digits_encode (id : Vector UInt8 16) :
    (encode id).toList.map digit = (idSlices id.toList).map sliceDigit := by
  rw [encode_eq_map, List.map_map]
  exact List.map_congr_left fun slice _ => digit_symbol slice

/-- Every symbol written is in the alphabet, in upper case. -/
theorem mem_symbols_of_encode (id : Vector UInt8 16) (byte : UInt8)
    (written : byte ∈ (encode id).toList) : byte ∈ symbols := by
  rw [encode_eq_map] at written
  obtain ⟨slice, -, rfl⟩ := List.mem_map.mp written
  exact symbol_mem slice

/-- What is written is well-formed. -/
theorem wellFormed_encode (id : Vector UInt8 16) : WellFormed (encode id).toList where
  length := Vector.length_toList
  known := by
    intro byte mem
    have written := mem_symbols_of_encode id byte mem
    rwa [InAlphabet, upper_of_symbol byte written]
  leading := by
    have head : (encode id).toList.getD 0 0 = symbol (id[0] >>> 5) := rfl
    have moved := toNat_shifted id[0] 5 (by decide)
    have bound := id[0].toNat_lt
    simp only [UInt8.reduceToNat, Nat.reducePow] at moved
    rw [head, digit_symbol, moved]
    omega

/-- A text is well-formed and has the digits of an identifier when it is what is written for it, in
any mix of cases. -/
theorem digits_of_upper (text : List UInt8) (id : Vector UInt8 16)
    (same : text.map upper = (encode id).toList) :
    WellFormed text ∧ text.map digit = (encode id).toList.map digit := by
  have formed := wellFormed_encode id
  have known (byte : UInt8) (mem : byte ∈ text) : InAlphabet byte :=
    mem_symbols_of_encode id (upper byte) (same ▸ List.mem_map_of_mem mem)
  have digits : text.map digit = (encode id).toList.map digit := by
    rw [← same, List.map_map]
    exact List.map_congr_left fun byte mem => (digit_upper byte (known byte mem)).symm
  have length : text.length = 26 := by
    have lengths := congrArg List.length same
    rwa [List.length_map, formed.length] at lengths
  have leading := formed.leading
  cases text with
  | nil => cases length
  | cons first rest =>
    have head := known first List.mem_cons_self
    rw [← same, List.map_cons, List.getD_cons_zero, digit_upper first head] at leading
    exact ⟨⟨length, known, leading⟩, digits⟩

/-- What is written for an identifier is read back, in any mix of cases and in both modes. -/
theorem decode_of_upper (mode : Mode) (text : List UInt8) (id : Vector UInt8 16)
    (same : text.map upper = (encode id).toList) : decode mode text = .ok id := by
  obtain ⟨formed, digits⟩ := digits_of_upper text id same
  obtain ⟨back, read, spelled⟩ := decode_of_wellFormed mode text formed
  rw [number_eq_value _ formed.length, digits, digits_encode,
    value_idSlices _ Vector.length_toList] at spelled
  have bytes := Bytes.toNat_injective back.toList id.toList (by simp) spelled
  rw [read, Vector.toList_inj.mp bytes]

/-- What is written is read back, in both modes. -/
theorem decode_encode (mode : Mode) (id : Vector UInt8 16) :
    decode mode (encode id).toList = .ok id := by
  apply decode_of_upper
  calc (encode id).toList.map upper
      = (encode id).toList.map fun byte => byte := List.map_congr_left fun byte mem =>
        upper_of_symbol byte (mem_symbols_of_encode id byte mem)
    _ = (encode id).toList := List.map_id' _

/-- Strict reading accepts exactly the well-formed texts. It reads each as the sixteen big-endian
bytes of the number that it spells, and writing these gives the text in upper case. A text of
another length is refused for its length, one of the right length for the first byte outside the
alphabet, and one without such a byte for a first symbol above 7. What is written for an
identifier is read back, in both modes. -/
theorem strict_reading (text : List UInt8) :
    ((∃ id, decode .strict text = .ok id) ↔ WellFormed text) ∧
    (∀ id, decode .strict text = .ok id →
      Bytes.toNat id.toList = number text ∧ id = Bytes.ofNat 16 (number text) ∧
        (encode id).toList = text.map upper) ∧
    (text.length ≠ 26 → decode .strict text = .error (.dataSize 26 text.length)) ∧
    (text.length = 26 → ∀ before byte after, text = before ++ byte :: after →
      (∀ other ∈ before, InAlphabet other) → ¬ InAlphabet byte →
      decode .strict text = .error (.invalidCharacter byte before.length)) ∧
    (text.length = 26 → (∀ byte ∈ text, InAlphabet byte) → 7 < digit (text.getD 0 0) →
      decode .strict text = .error .overflow) ∧
    ∀ mode id, decode mode (encode id).toList = .ok id := by
  refine ⟨⟨?_, ?_⟩, ?_, decode_of_length .strict text, ?_, decode_of_overflow .strict text,
    decode_encode⟩
  · rintro ⟨id, read⟩
    exact wellFormed_of_decode text id read
  · intro wellFormed
    obtain ⟨id, read, -⟩ := decode_of_wellFormed .strict text wellFormed
    exact ⟨id, read⟩
  · intro id read
    have wellFormed := wellFormed_of_decode text id read
    obtain ⟨other, readOther, same⟩ := decode_of_wellFormed .strict text wellFormed
    obtain rfl : id = other := Except.ok.inj (read.symm.trans readOther)
    refine ⟨same, ?_, encode_of_number text id wellFormed same⟩
    rw [← same, Bytes.ofNat_toNat]
  · rintro length before byte after rfl known unknown
    exact decode_of_foreign before after byte length known unknown

end SortableId.Base32
