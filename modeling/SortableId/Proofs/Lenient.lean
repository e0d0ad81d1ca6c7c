import Mathlib
import SortableId.Proofs.Codec
import SortableId.Proofs.Fields

/-!
# Lenient reading

Lenient reading fails only for the first symbol, and on texts of the alphabet both modes agree. A
foreign byte has a value with three bits too many, and what these do is said beside the text in
which the last symbol, all five bits set, stands in place of each foreign byte: a byte put together
has at least the bits that it has there, and differs only where a replaced symbol has bits in it.
So damage in the last sixteen symbols leaves the timestamp alone, and damage in the first ten the
entropy.
-/

namespace SortableId.Base32

/-- All bits that are set in one byte are set in another. -/
def Within (small large : UInt8) : Prop :=
  ∀ bit, small.toNat.testBit bit = true → large.toNat.testBit bit = true

namespace Within

/-- A byte has its own bits. -/
theorem refl (byte : UInt8) : Within byte byte := fun _ set => set

/-- The sentinel has all bits. -/
theorem sentinel (byte : UInt8) : Within byte sentinel := by
  intro bit set
  have all : Base32.sentinel.toNat = 2 ^ 8 - 1 := rfl
  have small : bit < 8 := by
    by_contra high
    have bound : byte.toNat < 2 ^ bit :=
      Nat.lt_of_lt_of_le byte.toNat_lt (Nat.pow_le_pow_right (by decide) (Nat.le_of_not_lt high))
    rw [Nat.testBit_lt_two_pow bound] at set
    exact Bool.false_ne_true set
  rw [all, Nat.testBit_two_pow_sub_one]
  exact decide_eq_true small

/-- The bits of two bytes together are within those of two bytes that they are within. -/
theorem or {small large smaller larger : UInt8} (left : Within small large)
    (right : Within smaller larger) : Within (small ||| smaller) (large ||| larger) := by
  intro bit set
  rw [UInt8.toNat_or, Nat.testBit_or, Bool.or_eq_true] at set ⊢
  exact set.imp (left bit) (right bit)

/-- Bits moved up stay within those moved with them: both lose the same places. -/
theorem shiftLeft {small large : UInt8} (within : Within small large) (shift : UInt8) :
    Within (small <<< shift) (large <<< shift) := by
  intro bit set
  rw [UInt8.toNat_shiftLeft] at set ⊢
  simp only [Nat.testBit_mod_two_pow, Nat.testBit_shiftLeft, Bool.and_eq_true] at set ⊢
  exact ⟨set.1, set.2.1, within _ set.2.2⟩

/-- Bits moved down stay within those moved with them. -/
theorem shiftRight {small large : UInt8} (within : Within small large) (shift : UInt8) :
    Within (small >>> shift) (large >>> shift) := by
  intro bit set
  rw [UInt8.toNat_shiftRight, Nat.testBit_shiftRight] at set ⊢
  exact within _ set

end Within

/-- A symbol carries a bit of the identifier, counted from the top: the first symbol has three bits
and the others have five each. -/
def Carries (symbol bit : Nat) : Prop := 5 * symbol ≤ bit + 2 ∧ bit ≤ 5 * symbol + 2

/-- The symbols that have bits in a byte, from the one with its first bit to that with its last. -/
def sharers (place : Nat) : List Nat :=
  List.range' ((8 * place + 2) / 5) ((8 * place + 9) / 5 + 1 - (8 * place + 2) / 5)

/-- What a symbol adds to a byte: its value, with the bits moved to their places. -/
def share (place symbol : Nat) (value : UInt8) : UInt8 :=
  if 5 * symbol ≤ 8 * place + 5 then value <<< UInt8.ofNat (8 * place + 5 - 5 * symbol)
  else value >>> UInt8.ofNat (5 * symbol - (8 * place + 5))

/-- A symbol that has bits in a byte carries one of them. -/
theorem exists_carried (place symbol : Nat) (inside : place < 16) (mem : symbol ∈ sharers place) :
    symbol < 26 ∧ ∃ bit, bit / 8 = place ∧ Carries symbol bit := by
  rw [sharers, List.mem_range'_1] at mem
  refine ⟨by omega, ?_⟩
  by_cases early : 5 * symbol ≤ 8 * place + 2
  · exact ⟨8 * place, by omega, by omega, by omega⟩
  · exact ⟨5 * symbol - 2, by omega, by omega, by omega⟩

/-- Each byte is put together from the shares of the symbols that have bits in it, also where their
values are sentinels. -/
theorem getElem_assemble (d : Vector UInt8 26) (place : Nat) (inside : place < 16) :
    (assemble d)[place] =
      (sharers place).foldl
        (fun byte symbol => byte ||| share place symbol (d.toList.getD symbol 0)) 0 := by
  interval_cases place <;> simp [sharers, List.range', share, assemble]

/-- A share has its bits within the share of a value with more. -/
theorem share_within (place symbol : Nat) {small large : UInt8} (within : Within small large) :
    Within (share place symbol small) (share place symbol large) := by
  rw [share, share]
  split
  · exact within.shiftLeft _
  · exact within.shiftRight _

/-- Shares that are within others are so together. -/
theorem foldl_within (list : List Nat) (lower upper : Nat → UInt8) (small large : UInt8)
    (start : Within small large) (each : ∀ symbol ∈ list, Within (lower symbol) (upper symbol)) :
    Within (list.foldl (fun byte symbol => byte ||| lower symbol) small)
      (list.foldl (fun byte symbol => byte ||| upper symbol) large) := by
  induction list generalizing small large with
  | nil => exact start
  | cons symbol list ih =>
    obtain ⟨first, rest⟩ := List.forall_mem_cons.mp each
    exact ih _ _ (start.or first) rest

/-- Values within others are put together to bytes within those of the others. -/
theorem assemble_within (d e : Vector UInt8 26)
    (each : ∀ symbol, Within (d.toList.getD symbol 0) (e.toList.getD symbol 0)) (place : Nat)
    (inside : place < 16) : Within (assemble d)[place] (assemble e)[place] := by
  rw [getElem_assemble, getElem_assemble]
  apply foldl_within _ _ _ _ _ (Within.refl 0)
  intro symbol _
  exact share_within place symbol (each symbol)

/-- A byte does not depend on the symbols that carry none of its bits. -/
theorem assemble_congr (d e : Vector UInt8 26) (place : Nat) (inside : place < 16)
    (same : ∀ bit symbol, bit / 8 = place → Carries symbol bit → ∀ small : symbol < 26,
      d[symbol] = e[symbol]) : (assemble d)[place] = (assemble e)[place] := by
  rw [getElem_assemble, getElem_assemble]
  apply List.foldl_ext
  intro byte symbol mem
  obtain ⟨small, bit, within, carried⟩ := exists_carried place symbol inside mem
  have equal := same bit symbol within carried small
  simp [small, equal]

/-- A byte of text, with the last symbol in its place if it is foreign. -/
def mended (byte : UInt8) : UInt8 := if InAlphabet byte then byte else 'Z'.toUInt8

/-- Bytes of the alphabet stay as they are. -/
theorem mended_of_known (byte : UInt8) (known : InAlphabet byte) : mended byte = byte :=
  if_pos known

/-- What stands for a byte is in the alphabet. -/
theorem inAlphabet_mended (byte : UInt8) : InAlphabet (mended byte) := by
  rw [mended]
  split
  · assumption
  · decide

/-- A foreign byte has a value with all the bits of the symbol in its place, and more. -/
theorem value_mended_within (byte : UInt8) : Within (value (mended byte)) (value byte) := by
  by_cases known : InAlphabet byte
  · rw [mended_of_known byte known]
    exact .refl _
  · rw [(value_eq_sentinel_iff byte).mpr known]
    exact .sentinel _

/-- A value takes more than three bits if it is one of a foreign byte or of a symbol after the
eighth. -/
theorem value_gt_iff (byte : UInt8) : value byte > 7 ↔ ¬ InAlphabet byte ∨ 7 < digit byte := by
  by_cases known : InAlphabet byte
  · have same := toNat_value byte known
    rw [gt_iff_lt, UInt8.lt_iff_toNat_lt, same]
    exact (or_iff_right (not_not.mpr known)).symm
  · rw [(value_eq_sentinel_iff byte).mpr known]
    exact iff_of_true (by decide) (.inl known)

/-- Lenient reading looks at the first value, and puts the values together. -/
theorem decode_lenient (text : Vector UInt8 26) :
    decode .lenient text.toList =
      if ¬ InAlphabet text.head ∨ 7 < digit text.head then .error .overflow
      else .ok (assemble (text.map value)) := by
  have first : (text.map value)[0] = value text.head := by simp [Vector.head]
  rw [decode_toList]
  simp only [decodeSymbols, first, value_gt_iff]

/-- A text that can be read leniently: it has one byte for each symbol, and the first is a digit up
to 7. -/
def Legible (text : List UInt8) : Prop :=
  text.length = 26 ∧ '0'.toUInt8 ≤ text.getD 0 0 ∧ text.getD 0 0 ≤ '7'.toUInt8

/-- Why a text cannot be read leniently: its length, and if that is right its first byte. -/
def refusal (text : List UInt8) : Error :=
  if text.length = 26 then .overflow else .dataSize encodedLength text.length

/-- A text of 26 bytes can be read leniently unless its first value takes more than three bits. -/
theorem legible_toList (text : Vector UInt8 26) :
    Legible text.toList ↔ ¬ (¬ InAlphabet text.head ∨ 7 < digit text.head) := by
  have head : text.toList.getD 0 0 = text.head := by simp [List.getD_eq_getElem?_getD, Vector.head]
  have three : InAlphabet text.head ∧ digit text.head ≤ 7 ↔
      ¬ (¬ InAlphabet text.head ∨ 7 < digit text.head) := by
    simp only [not_or, not_not, Nat.not_lt]
  rw [Legible, head, ← threeBits_iff, ← three]
  exact and_iff_right Vector.length_toList

/-- Lenient reading accepts exactly the legible texts, and says of any other why it is not. -/
theorem decode_lenient_cases (text : List UInt8) :
    (Legible text ∧ ∃ id, decode .lenient text = .ok id) ∨
      (¬ Legible text ∧ decode .lenient text = .error (refusal text)) := by
  by_cases length : text.length = 26
  · obtain ⟨symbols, rfl⟩ := exists_toList text length
    rw [decode_lenient, legible_toList, refusal, if_pos length]
    split
    · rename_i refused
      exact .inr ⟨not_not.mpr refused, rfl⟩
    · rename_i accepted
      exact .inl ⟨accepted, _, rfl⟩
  · rw [refusal, if_neg length]
    exact .inr ⟨fun legible => length legible.1, decode_of_length .lenient text length⟩

/-- The mended text is read strictly, and fails only as the text does in lenient reading. -/
theorem decode_mended (text : Vector UInt8 26) :
    decode .strict (text.toList.map mended) =
      if ¬ InAlphabet text.head ∨ 7 < digit text.head then .error .overflow
      else .ok (assemble ((text.map mended).map value)) := by
  have known : ∀ byte ∈ (text.map mended).toList, InAlphabet byte := by
    intro byte mem
    rw [Vector.toList_map] at mem
    obtain ⟨other, -, rfl⟩ := List.mem_map.mp mem
    exact inAlphabet_mended other
  have first : (text.map mended).toList.getD 0 0 = mended text.head := by
    simp [List.getD_eq_getElem?_getD, Vector.head]
  have large : 7 < digit (mended text.head) ↔ ¬ InAlphabet text.head ∨ 7 < digit text.head := by
    by_cases inside : InAlphabet text.head
    · rw [mended_of_known _ inside]
      exact (or_iff_right (not_not.mpr inside)).symm
    · rw [mended, if_neg inside]
      exact iff_of_true (by decide) (.inl inside)
  rw [← Vector.toList_map, decode_toList, decodeSymbols_of_known .strict _ known, first]
  simp only [large]

/-- A text that is read leniently is the one that is put together from its values, and mended it is
read strictly. -/
theorem assembled_of_lenient (text : Vector UInt8 26) (id : Vector UInt8 16)
    (read : decode .lenient text.toList = .ok id) :
    id = assemble (text.map value) ∧
      decode .strict (text.toList.map mended) = .ok (assemble ((text.map mended).map value)) := by
  have mend := decode_mended text
  rw [decode_lenient] at read
  split at read
  · cases read
  · rename_i accepted
    rw [if_neg accepted] at mend
    exact ⟨(Except.ok.inj read).symm, mend⟩

/-- Every byte that is put together has the bits of the mended one. -/
theorem mended_within (text : Vector UInt8 26) (place : Nat) (inside : place < 16) :
    Within (assemble ((text.map mended).map value))[place] (assemble (text.map value))[place] := by
  apply assemble_within
  intro symbol
  by_cases small : symbol < 26
  · simpa [small] using value_mended_within text[symbol]
  · simpa [small] using Within.refl 0

/-- A byte without bits of foreign symbols is the mended one. -/
theorem mended_of_spared (text : Vector UInt8 26) (place : Nat) (inside : place < 16)
    (spared : ∀ bit symbol, bit / 8 = place → Carries symbol bit → ∀ small : symbol < 26,
      InAlphabet text[symbol]) :
    (assemble (text.map value))[place] = (assemble ((text.map mended).map value))[place] := by
  apply assemble_congr
  intro bit symbol within carried small
  have known := spared bit symbol within carried small
  simp [mended_of_known _ known]

/-- The fields of a mended text are spelled by its first ten and its last sixteen symbols. -/
theorem fields_of_mended (text : Vector UInt8 26) (exact : Vector UInt8 16)
    (read : decode .strict (text.toList.map mended) = .ok exact) :
    (Ulid.mk exact).timestamp.toNat =
        Positional.value 32 (((text.toList.take 10).map mended).map digit) ∧
      (Ulid.mk exact).entropyValue.toNat =
        Positional.value 32 (((text.toList.drop 10).map mended).map digit) := by
  have length : (text.toList.map mended).length = 26 := by simp
  have known : ∀ byte ∈ text.toList.map mended, InAlphabet byte :=
    (wellFormed_of_decode _ _ read).known
  have spelled := toNat_of_decode _ _ read
  rw [number_eq_value _ length] at spelled
  have fields := Ulid.fields_of_digits ⟨exact⟩ _ (by simp) (digits_ranged _ known) spelled
  simpa only [List.map_take, List.map_drop] using fields

/-- Bytes of the alphabet spell what they spell when mended. -/
theorem map_digit_mended (bytes : List UInt8) (known : ∀ byte ∈ bytes, InAlphabet byte) :
    (bytes.map mended).map digit = bytes.map digit := by
  rw [List.map_map]
  exact List.map_congr_left fun byte mem => congrArg digit (mended_of_known byte (known byte mem))

/-- What damage to a text does to what is read from it leniently. -/
structure Contained (text : Vector UInt8 26) (id : Vector UInt8 16) : Prop where
  /-- The mended text is read strictly. Every byte has at least the bits that it has there, and is
  the same unless one of its bits belongs to a foreign symbol. -/
  bytes : ∃ exact, decode .strict (text.toList.map mended) = .ok exact ∧
    ∀ place (inside : place < 16), Within exact[place] id[place] ∧
      ((∀ bit symbol, bit / 8 = place → Carries symbol bit → ∀ small : symbol < 26,
        InAlphabet text[symbol]) → id[place] = exact[place])
  /-- The timestamp is the one that the first ten symbols spell if they are in the alphabet. -/
  timestamp : (∀ byte ∈ text.toList.take 10, InAlphabet byte) →
    (Ulid.mk id).timestamp.toNat = Positional.value 32 ((text.toList.take 10).map digit)
  /-- The entropy is the one that the last sixteen symbols spell if they are in the alphabet. -/
  entropy : (∀ byte ∈ text.toList.drop 10, InAlphabet byte) →
    (Ulid.mk id).entropyValue.toNat = Positional.value 32 ((text.toList.drop 10).map digit)

/-- What is read leniently has the damage contained. -/
theorem contained_of_lenient (text : Vector UInt8 26) (id : Vector UInt8 16)
    (read : decode .lenient text.toList = .ok id) : Contained text id := by
  obtain ⟨rfl, mend⟩ := assembled_of_lenient text id read
  have fields := fields_of_mended text _ mend
  constructor
  case bytes =>
    exact ⟨_, mend, fun place inside =>
      ⟨mended_within text place inside, mended_of_spared text place inside⟩⟩
  case timestamp =>
    intro known
    have same : (Ulid.mk (assemble (text.map value))).timestamp =
        (Ulid.mk (assemble ((text.map mended).map value))).timestamp := by
      apply Ulid.timestamp_congr
      intro place inside early
      apply mended_of_spared text place inside
      intro bit symbol within carried small
      have lowest := carried.1
      have first : symbol < 10 := by omega
      apply known
      rw [List.mem_take_iff_getElem]
      exact ⟨symbol, by simp [first], by simp⟩
    rw [same, fields.1, map_digit_mended _ known]
  case entropy =>
    intro known
    have same : (Ulid.mk (assemble (text.map value))).entropyValue =
        (Ulid.mk (assemble ((text.map mended).map value))).entropyValue := by
      apply Ulid.entropyValue_congr
      intro place inside late
      apply mended_of_spared text place inside
      intro bit symbol within carried small
      have highest := carried.2
      have last : 10 ≤ symbol := by omega
      apply known
      rw [List.mem_drop_iff_getElem]
      exact ⟨symbol - 10, by simp; omega, by simp [last]⟩
    rw [same, fields.2, map_digit_mended _ known]

/-- Lenient reading is strict reading with contained damage. A text of 26 bytes is refused only
when its first byte is foreign or stands for more than three bits, and then for overflow. Without
foreign bytes both modes give the same. In any other text that is read, the bytes have all the bits
of those of the text in which the last symbol stands for every foreign byte, and are the same if no
foreign byte has bits in them; so symbols of the alphabet keep the field exact that they spell,
whatever the symbols of the other one are. -/
theorem lenient_reading (text : Vector UInt8 26) :
    (∀ cause, decode .lenient text.toList = .error cause ↔
      cause = .overflow ∧ (¬ InAlphabet text.head ∨ 7 < digit text.head)) ∧
    ((∀ byte ∈ text.toList, InAlphabet byte) →
      decode .lenient text.toList = decode .strict text.toList) ∧
    ∀ id, decode .lenient text.toList = .ok id → Contained text id := by
  refine ⟨fun cause => ?_, fun known => ?_, contained_of_lenient text⟩
  · rw [decode_lenient]
    split
    · rename_i refused
      simp [refused, eq_comm]
    · rename_i accepted
      simp [accepted]
  · rw [decode_toList, decode_toList, decodeSymbols_of_known .lenient text known,
      decodeSymbols_of_known .strict text known]

/-- A foreign last symbol sets all bits of the last byte, of which it carries only five. -/
example :
    (decode .lenient (List.replicate 25 '0'.toUInt8 ++ ['U'.toUInt8])).map Vector.toList =
        .ok (List.replicate 15 0 ++ [0xFF]) ∧
      (decode .strict (List.replicate 25 '0'.toUInt8 ++ ['Z'.toUInt8])).map Vector.toList =
        .ok (List.replicate 15 0 ++ [0x1F]) := by
  decide +kernel

end SortableId.Base32
