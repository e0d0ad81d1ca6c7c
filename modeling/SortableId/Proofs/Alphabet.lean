import Mathlib
import SortableId.Base32
import SortableId.Proofs.Positional

/-!
# The alphabet of the text form

A byte of text stands for the place of its upper-case form in the alphabet. `Base32.value` looks
that place up and has the sentinel for every byte that is in the alphabet in neither case;
`Base32.symbol` goes back. The symbols are in ascending order, so they are ordered as their places.
-/

namespace SortableId.Base32

/-- A byte of text with a lower-case letter made a capital. -/
def upper (byte : UInt8) : UInt8 := if 97 ≤ byte ∧ byte ≤ 122 then byte - 32 else byte

/-- The symbols as bytes of text, in the order of their values. -/
def symbols : List UInt8 := alphabet.toList.map Char.toUInt8

/-- A byte of text is in the alphabet, up to case. -/
def InAlphabet (byte : UInt8) : Prop := upper byte ∈ symbols

instance (byte : UInt8) : Decidable (InAlphabet byte) :=
  inferInstanceAs (Decidable (upper byte ∈ symbols))

/-- What a byte of the alphabet stands for: the place of its upper-case form. -/
def digit (byte : UInt8) : Nat := symbols.idxOf (upper byte)

/-- The symbols are in ascending order. -/
theorem symbols_ascending : symbols.Pairwise (· < ·) := by decide

/-- No symbol occurs twice. -/
theorem symbols_nodup : symbols.Nodup := symbols_ascending.imp UInt8.ne_of_lt

/-- A character is a digit, which has no other case, or a capital, whose small letter is 32 places
on. -/
def DigitOrCapital (char : Char) : Prop :=
  (48 ≤ char.toUInt8.toNat ∧ char.toUInt8.toNat ≤ 57 ∧ char.toLower.toUInt8 = char.toUInt8) ∨
    (65 ≤ char.toUInt8.toNat ∧ char.toUInt8.toNat ≤ 90 ∧
      char.toLower.toUInt8.toNat = char.toUInt8.toNat + 32)

instance : DecidablePred DigitOrCapital := fun _ => inferInstanceAs (Decidable (_ ∨ _))

/-- The alphabet has digits and capitals. -/
theorem digitOrCapital (char : Char) (known : char ∈ alphabet.toList) : DigitOrCapital char := by
  -- One test over the alphabet, since a case for each character would repeat it 32 times.
  have checked : (alphabet.toList.all fun char => decide (DigitOrCapital char)) = true := by
    decide +kernel
  exact of_decide_eq_true (List.all_eq_true.mp checked char known)

/-- The upper-case form as a number. -/
theorem toNat_upper (byte : UInt8) :
    (upper byte).toNat =
      if 97 ≤ byte.toNat ∧ byte.toNat ≤ 122 then byte.toNat - 32 else byte.toNat := by
  simp only [upper, UInt8.le_iff_toNat_le, UInt8.reduceToNat]
  split
  · rename_i small
    exact UInt8.toNat_sub_of_le byte 32 (UInt8.le_iff_toNat_le.mpr (le_trans (by decide) small.1))
  · rfl

/-- A byte is a character of the alphabet in either case exactly when its upper-case form is that
character. -/
theorem either_case (byte : UInt8) (char : Char) (known : char ∈ alphabet.toList) :
    (char.toUInt8 == byte || char.toLower.toUInt8 == byte) = (char.toUInt8 == upper byte) := by
  rw [Bool.eq_iff_iff, Bool.or_eq_true, beq_iff_eq, beq_iff_eq, beq_iff_eq, ← UInt8.toNat_inj,
    ← UInt8.toNat_inj, ← UInt8.toNat_inj, toNat_upper]
  obtain ⟨low, high, lower⟩ | ⟨low, high, lower⟩ := digitOrCapital char known
  · rw [lower]
    split <;> omega
  · rw [lower]
    split <;> omega

/-- Searches with tests that agree on the list end at the same place. -/
theorem findIdx?_congr {α : Type} (first second : α → Bool) (list : List α)
    (agree : ∀ item ∈ list, first item = second item) :
    list.findIdx? first = list.findIdx? second := by
  induction list with
  | nil => rfl
  | cons item list ih =>
    rw [List.findIdx?_cons, List.findIdx?_cons, agree item List.mem_cons_self,
      ih fun other mem => agree other (List.mem_cons_of_mem item mem)]

/-- The look-up of a byte is its place in the alphabet, or the sentinel. -/
theorem value_eq (byte : UInt8) :
    value byte = if InAlphabet byte then UInt8.ofNat (digit byte) else sentinel := by
  have search : value? byte = (symbols.findIdx? (· == upper byte)).map UInt8.ofNat := by
    rw [value?, symbols, List.findIdx?_map]
    exact congrArg _ (findIdx?_congr _ _ _ (either_case byte))
  rw [value, search, List.findIdx?_eq_guard_findIdx_lt]
  change (Option.map UInt8.ofNat (Option.guard _ (digit byte))).getD sentinel = _
  by_cases known : InAlphabet byte
  · have bound : digit byte < symbols.length := List.idxOf_lt_length_of_mem known
    simp [Option.guard, known, bound]
  · have bound : ¬ digit byte < symbols.length := fun small =>
      known (List.idxOf_lt_length_iff.mp small)
    simp [Option.guard, known, bound]

/-- Symbols are in upper case. -/
theorem upper_of_symbol (byte : UInt8) (known : byte ∈ symbols) : upper byte = byte := by
  obtain ⟨char, mem, rfl⟩ := List.mem_map.mp known
  rw [← UInt8.toNat_inj, toNat_upper]
  have ranges := digitOrCapital char mem
  rw [DigitOrCapital] at ranges
  split <;> omega

/-- A byte of the alphabet in upper case stands for the same place. -/
theorem digit_upper (byte : UInt8) (known : InAlphabet byte) : digit (upper byte) = digit byte := by
  rw [digit, upper_of_symbol _ known, digit]

/-- A place in the alphabet is below 32. -/
theorem digit_lt (byte : UInt8) (known : InAlphabet byte) : digit byte < 32 :=
  List.idxOf_lt_length_of_mem known

/-- A byte of the alphabet has its place as its value. -/
theorem toNat_value (byte : UInt8) (known : InAlphabet byte) : (value byte).toNat = digit byte := by
  have bound := digit_lt byte known
  rw [value_eq, if_pos known, UInt8.toNat_ofNat']
  omega

/-- The bytes that stand for three bits are the digits up to 7. -/
theorem threeBits_iff (byte : UInt8) :
    InAlphabet byte ∧ digit byte ≤ 7 ↔ '0'.toUInt8 ≤ byte ∧ byte ≤ '7'.toUInt8 := by
  -- Tested over all bytes, since the look-up has no order that inequalities could go through.
  have checked : ∀ place : Fin 256, InAlphabet (UInt8.ofNat place) ∧ digit (UInt8.ofNat place) ≤ 7 ↔
      '0'.toUInt8 ≤ UInt8.ofNat place ∧ UInt8.ofNat place ≤ '7'.toUInt8 := by
    decide +kernel
  simpa using checked ⟨byte.toNat, byte.toNat_lt⟩

/-- The sentinel marks exactly the bytes outside the alphabet. -/
theorem value_eq_sentinel_iff (byte : UInt8) : value byte = sentinel ↔ ¬ InAlphabet byte := by
  constructor
  · intro marked known
    have bound := digit_lt byte known
    rw [← toNat_value byte known, marked] at bound
    exact absurd bound (by decide)
  · intro unknown
    rw [value_eq, if_neg unknown]

/-- A symbol is the one at the place that the low five bits give. -/
theorem getElem?_symbols (slice : UInt8) : symbols[slice.toNat % 32]? = some (symbol slice) := by
  have bound : slice.toNat % 32 < 32 := Nat.mod_lt _ (by decide)
  simp only [symbols, List.getElem?_map, Vector.getElem?_toList, Vector.getElem?_eq_getElem bound]
  rfl

/-- A symbol is in the alphabet. -/
theorem symbol_mem (slice : UInt8) : symbol slice ∈ symbols :=
  List.mem_of_getElem? (getElem?_symbols slice)

/-- A symbol is in the alphabet, up to case. -/
theorem inAlphabet_symbol (slice : UInt8) : InAlphabet (symbol slice) := by
  rw [InAlphabet, upper_of_symbol _ (symbol_mem slice)]
  exact symbol_mem slice

/-- A symbol stands for the low five bits that it was made of. -/
theorem digit_symbol (slice : UInt8) : digit (symbol slice) = slice.toNat % 32 := by
  obtain ⟨bound, place⟩ := List.getElem?_eq_some_iff.mp (getElem?_symbols slice)
  rw [digit, upper_of_symbol _ (symbol_mem slice), ← place]
  exact symbols_nodup.idxOf_getElem _ _

/-- The symbol at a byte's place is the byte in upper case. -/
theorem symbol_of_digit (byte slice : UInt8) (known : InAlphabet byte)
    (same : slice.toNat % 32 = digit byte) : symbol slice = upper byte := by
  have place : symbols[digit byte]? = some (upper byte) := List.getElem?_idxOf known
  have symbolAt := getElem?_symbols slice
  rw [same, place] at symbolAt
  exact (Option.some.inj symbolAt).symm

/-- Symbols are ordered as the five bits that they were made of. -/
theorem compare_symbol (left right : UInt8) :
    compare (symbol left) (symbol right) = compare (left.toNat % 32) (right.toNat % 32) := by
  have ascending := List.pairwise_iff_getElem.mp symbols_ascending
  obtain ⟨leftBound, leftPlace⟩ := List.getElem?_eq_some_iff.mp (getElem?_symbols left)
  obtain ⟨rightBound, rightPlace⟩ := List.getElem?_eq_some_iff.mp (getElem?_symbols right)
  rw [Bytes.compare_byte, ← leftPlace, ← rightPlace]
  rcases Nat.lt_trichotomy (left.toNat % 32) (right.toNat % 32) with less | same | greater
  · rw [Nat.compare_eq_lt.mpr less]
    exact Nat.compare_eq_lt.mpr (UInt8.lt_iff_toNat_lt.mp (ascending _ _ _ _ less))
  · rw [Nat.compare_eq_eq.mpr same, Nat.compare_eq_eq, getElem_congr_idx same]
  · rw [Nat.compare_eq_gt.mpr greater]
    exact Nat.compare_eq_gt.mpr (UInt8.lt_iff_toNat_lt.mp (ascending _ _ _ _ greater))

end SortableId.Base32
