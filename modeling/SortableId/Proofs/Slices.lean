import Mathlib
import SortableId.Base32
import SortableId.Proofs.Positional

/-!
# Bit slices as a change of base

Writing sixteen bytes as 26 slices of five bits changes the base from 256 to 32, and putting bytes
together from slices changes it back. Both go by groups: after the first byte, which has a slice of
three bits and one of five, five bytes and eight slices stand for each other. A slice drops what
leaves its five bits and a byte what leaves its eight, so each fact here is one of remainders.
-/

namespace SortableId.Base32

/-- A byte moved up over a part that fits below it is the sum of both, less what leaves the byte. -/
theorem toNat_splice (high low shift : UInt8) (within : shift.toNat < 8)
    (fits : low.toNat < 2 ^ shift.toNat) :
    (high <<< shift ||| low).toNat = high.toNat * 2 ^ shift.toNat % 256 + low.toNat := by
  have width : 256 = 2 ^ shift.toNat * 2 ^ (8 - shift.toNat) := by
    rw [← pow_add, Nat.add_sub_cancel' within.le]
    rfl
  have moved : (high <<< shift).toNat =
      2 ^ shift.toNat * (high.toNat % 2 ^ (8 - shift.toNat)) := by
    rw [UInt8.toNat_shiftLeft, Nat.mod_eq_of_lt within, Nat.shiftLeft_eq, Nat.mul_comm]
    exact (congrArg _ width).trans (Nat.mul_mod_mul_left _ _ _)
  rw [UInt8.toNat_or, moved, ← Nat.two_pow_add_eq_or_of_lt fits, Nat.mul_comm high.toNat, width,
    Nat.mul_mod_mul_left]

/-- A byte moved down is its quotient. -/
theorem toNat_shifted (byte shift : UInt8) (within : shift.toNat < 8) :
    (byte >>> shift).toNat = byte.toNat / 2 ^ shift.toNat := by
  rw [UInt8.toNat_shiftRight, Nat.mod_eq_of_lt within, Nat.shiftRight_eq_div_pow]

/-- Two neighbours that share a place: the low bits of one over the high bits of the other. -/
theorem toNat_straddle (high low up down : UInt8) (upWithin : up.toNat < 8)
    (downWithin : down.toNat < 8) (room : low.toNat < 2 ^ (up.toNat + down.toNat)) :
    (high <<< up ||| low >>> down).toNat =
      high.toNat * 2 ^ up.toNat % 256 + low.toNat / 2 ^ down.toNat := by
  have rest := toNat_shifted low down downWithin
  have fits : (low >>> down).toNat < 2 ^ up.toNat := by
    rw [rest, Nat.div_lt_iff_lt_mul (Nat.two_pow_pos _), ← pow_add]
    exact room
  rw [toNat_splice high _ up upWithin fits, rest]

/-- The eight slices of five bytes; the bits above the low five are the symbol's to drop. -/
def slices (a b c d e : UInt8) : List UInt8 :=
  [a >>> 3, (a <<< 2) ||| (b >>> 6), b >>> 1, (b <<< 4) ||| (c >>> 4), (c <<< 1) ||| (d >>> 7),
    d >>> 2, (d <<< 3) ||| (e >>> 5), e]

/-- The slices of bytes, five by five. -/
def groupSlices : List UInt8 → List UInt8
  | a :: b :: c :: d :: e :: rest => slices a b c d e ++ groupSlices rest
  | _ => []

/-- The slices of an identifier's bytes: two of the first byte, then those of its groups. -/
def idSlices : List UInt8 → List UInt8
  | first :: rest => first >>> 5 :: first :: groupSlices rest
  | [] => []

/-- The digit in base 32 that a symbol keeps of a slice. -/
def sliceDigit (slice : UInt8) : Nat := slice.toNat % 32

/-- The text form has one symbol for each slice. -/
theorem encode_eq_map (id : Vector UInt8 16) :
    (encode id).toList = (idSlices id.toList).map symbol := by
  have bytes : id.toList = [id[0], id[1], id[2], id[3], id[4], id[5], id[6], id[7], id[8], id[9],
      id[10], id[11], id[12], id[13], id[14], id[15]] := by
    apply List.ext_getElem (by simp)
    intro place small _
    rw [Vector.length_toList] at small
    interval_cases place <;> rfl
  rw [bytes]
  rfl

/-- Slices are digits in base 32. -/
theorem sliceDigits_ranged (list : List UInt8) : ∀ digit ∈ list.map sliceDigit, digit < 32 := by
  intro digit mem
  obtain ⟨slice, -, rfl⟩ := List.mem_map.mp mem
  exact Nat.mod_lt _ (by decide)

/-- A slice within one byte is what is left of it after the bits below. -/
theorem sliceDigit_shifted (byte shift : UInt8) (within : shift.toNat < 8) :
    sliceDigit (byte >>> shift) = byte.toNat / 2 ^ shift.toNat % 32 := by
  rw [sliceDigit, toNat_shifted byte shift within]

/-- A slice over two bytes has the low bits of the first over the high bits of the second. -/
theorem sliceDigit_straddle (high low up down : UInt8) (shared : 0 < up.toNat)
    (within : up.toNat < 5) (meet : up.toNat + down.toNat = 8) :
    sliceDigit (high <<< up ||| low >>> down) =
      high.toNat % 2 ^ (5 - up.toNat) * 2 ^ up.toNat + low.toNat / 2 ^ down.toNat := by
  have bound := low.toNat_lt
  have room : low.toNat < 2 ^ (up.toNat + down.toNat) := meet ▸ bound
  have rest : down.toNat = 8 - up.toNat := by omega
  rw [sliceDigit, toNat_straddle high low up down (by omega) (by omega) room, rest]
  generalize up.toNat = shift at shared within
  interval_cases shift <;> simp only [Nat.reducePow, Nat.reduceSub] <;> omega

/-- The slices of five bytes denote what the bytes denote. -/
theorem value_slices (a b c d e : UInt8) :
    Positional.value 32 ((slices a b c d e).map sliceDigit) = Bytes.toNat [a, b, c, d, e] := by
  have ha := a.toNat_lt
  have hb := b.toNat_lt
  have hc := c.toNat_lt
  have hd := d.toNat_lt
  have he := e.toNat_lt
  have first := sliceDigit_shifted a 3 (by decide)
  have second := sliceDigit_straddle a b 2 6 (by decide) (by decide) rfl
  have third := sliceDigit_shifted b 1 (by decide)
  have fourth := sliceDigit_straddle b c 4 4 (by decide) (by decide) rfl
  have fifth := sliceDigit_straddle c d 1 7 (by decide) (by decide) rfl
  have sixth := sliceDigit_shifted d 2 (by decide)
  have seventh := sliceDigit_straddle d e 3 5 (by decide) (by decide) rfl
  have eighth : sliceDigit e = e.toNat % 32 := rfl
  simp only [UInt8.reduceToNat, Nat.reducePow, Nat.reduceSub] at first second third fourth
  simp only [UInt8.reduceToNat, Nat.reducePow, Nat.reduceSub] at fifth sixth seventh
  simp only [slices, List.map_cons, List.map_nil, Positional.value_cons, Positional.value_nil,
    Bytes.toNat_cons, Bytes.toNat_nil, List.length_cons, List.length_nil, first, second, third,
    fourth, fifth, sixth, seventh, eighth, Nat.reduceAdd, Nat.reducePow]
  omega

/-- Bytes in whole groups of five are none, or a group and bytes in whole groups. -/
theorem group_cases (bytes : List UInt8) (whole : 5 ∣ bytes.length) :
    bytes = [] ∨ ∃ a b c d e rest, bytes = a :: b :: c :: d :: e :: rest ∧ 5 ∣ rest.length := by
  rcases bytes with _ | ⟨a, _ | ⟨b, _ | ⟨c, _ | ⟨d, _ | ⟨e, rest⟩⟩⟩⟩⟩
  · exact .inl rfl
  · exact absurd whole (by simp)
  · exact absurd whole (by simp)
  · exact absurd whole (by simp)
  · exact absurd whole (by simp)
  · exact .inr ⟨a, b, c, d, e, rest, rfl, (Nat.dvd_add_left (Nat.dvd_refl 5)).mp whole⟩

/-- The slices of whole groups denote what the bytes denote, and shift as far. -/
theorem value_groupSlices (bytes : List UInt8) (whole : 5 ∣ bytes.length) :
    Positional.value 32 ((groupSlices bytes).map sliceDigit) = Bytes.toNat bytes ∧
      32 ^ (groupSlices bytes).length = 256 ^ bytes.length := by
  -- The shift is part of the induction because a group in front is moved past all the others.
  fun_induction groupSlices bytes with
  | case1 a b c d e rest ih =>
    obtain ⟨value, shift⟩ := ih ((Nat.dvd_add_left (Nat.dvd_refl 5)).mp whole)
    have front : a :: b :: c :: d :: e :: rest = [a, b, c, d, e] ++ rest := rfl
    have width : 32 ^ (slices a b c d e).length = 256 ^ [a, b, c, d, e].length := by
      norm_num [slices]
    constructor
    · rw [List.map_append, Positional.value_append, value_slices, value, List.length_map, shift,
        front, Bytes.toNat_append]
    · rw [List.length_append, pow_add, shift, front, List.length_append, pow_add, width]
  | case2 bytes short =>
    obtain rfl | ⟨a, b, c, d, e, rest, rfl, -⟩ := group_cases bytes whole
    · exact ⟨rfl, rfl⟩
    · exact (short a b c d e rest rfl).elim

/-- The two slices of the first byte denote it. -/
theorem value_firstSlices (byte : UInt8) :
    Positional.value 32 ([byte >>> 5, byte].map sliceDigit) = byte.toNat := by
  have bound := byte.toNat_lt
  have high := sliceDigit_shifted byte 5 (by decide)
  have low : sliceDigit byte = byte.toNat % 32 := rfl
  simp only [UInt8.reduceToNat, Nat.reducePow] at high
  simp only [List.map_cons, List.map_nil, Positional.value_cons, Positional.value_nil,
    List.length_cons, List.length_nil, high, low, Nat.reduceAdd, Nat.reducePow]
  omega

/-- The slices of an identifier denote what its bytes denote. -/
theorem value_idSlices (bytes : List UInt8) (length : bytes.length = 16) :
    Positional.value 32 ((idSlices bytes).map sliceDigit) = Bytes.toNat bytes := by
  obtain ⟨first, rest, rfl⟩ := List.exists_cons_of_length_eq_add_one length
  obtain ⟨value, shift⟩ := value_groupSlices rest ⟨3, Nat.succ.inj length⟩
  have front : idSlices (first :: rest) = [first >>> 5, first] ++ groupSlices rest := rfl
  rw [front, List.map_append, Positional.value_append, value_firstSlices, value, List.length_map,
    shift, Bytes.toNat_cons]

/-- There are 26 slices. -/
theorem length_idSlices (id : Vector UInt8 16) : (idSlices id.toList).length = 26 := by
  rw [← List.length_map, ← encode_eq_map, Vector.length_toList]

/-- Five bytes put together from eight values. -/
def joined (s t u v w x y z : UInt8) : List UInt8 :=
  [(s <<< 3) ||| (t >>> 2), (t <<< 6) ||| (u <<< 1) ||| (v >>> 4), (v <<< 4) ||| (w >>> 1),
    (w <<< 7) ||| (x <<< 2) ||| (y >>> 3), (y <<< 5) ||| z]

/-- The bytes put together from values, eight by eight. -/
def joinedGroups : List UInt8 → List UInt8
  | s :: t :: u :: v :: w :: x :: y :: z :: rest => joined s t u v w x y z ++ joinedGroups rest
  | _ => []

/-- An identifier's bytes put together: one of the first two values, then those of the groups. -/
def joinedId : List UInt8 → List UInt8
  | first :: second :: rest => (first <<< 5 ||| second) :: joinedGroups rest
  | _ => []

/-- Sixteen bytes are put together from 26 values in groups. -/
theorem assemble_eq_joinedId (d : Vector UInt8 26) :
    (assemble d).toList = joinedId d.toList := by
  have values : d.toList = [d[0], d[1], d[2], d[3], d[4], d[5], d[6], d[7], d[8], d[9], d[10],
      d[11], d[12], d[13], d[14], d[15], d[16], d[17], d[18], d[19], d[20], d[21], d[22], d[23],
      d[24], d[25]] := by
    apply List.ext_getElem (by simp)
    intro place small _
    rw [Vector.length_toList] at small
    interval_cases place <;> rfl
  rw [values]
  rfl

/-- Eight digits in base 32 put together denote in bytes what they denote. -/
theorem toNat_joined (s t u v w x y z : UInt8)
    (ranged : ∀ digit ∈ [s, t, u, v, w, x, y, z].map UInt8.toNat, digit < 32) :
    Bytes.toNat (joined s t u v w x y z) =
      Positional.value 32 ([s, t, u, v, w, x, y, z].map UInt8.toNat) := by
  simp only [List.map_cons, List.map_nil, List.mem_cons, List.not_mem_nil, or_false,
    forall_eq_or_imp, forall_eq] at ranged
  obtain ⟨hs, ht, hu, hv, hw, hx, hy, hz⟩ := ranged
  have first := toNat_straddle s t 3 2 (by decide) (by decide) ht
  have second := toNat_straddle u v 1 4 (by decide) (by decide) hv
  have third := toNat_straddle v w 4 1 (by decide) (by decide) hw
  have fourth := toNat_straddle x y 2 3 (by decide) (by decide) hy
  have fifth := toNat_splice y z 5 (by decide) hz
  simp only [UInt8.reduceToNat, Nat.reducePow] at first second third fourth fifth
  have secondHigh := toNat_splice t (u <<< 1 ||| v >>> 4) 6 (by decide)
    (by simp only [second, UInt8.reduceToNat, Nat.reducePow]; omega)
  have fourthHigh := toNat_splice w (x <<< 2 ||| y >>> 3) 7 (by decide)
    (by simp only [fourth, UInt8.reduceToNat, Nat.reducePow]; omega)
  simp only [UInt8.reduceToNat, Nat.reducePow] at secondHigh fourthHigh
  simp only [joined, List.map_cons, List.map_nil, Positional.value_cons, Positional.value_nil,
    Bytes.toNat_cons, Bytes.toNat_nil, List.length_cons, List.length_nil, UInt8.or_assoc,
    first, second, third, fourth, fifth, secondHigh, fourthHigh, Nat.reduceAdd, Nat.reducePow]
  omega

/-- Values in whole groups of eight are none, or a group and values in whole groups. -/
theorem octet_cases (values : List UInt8) (whole : 8 ∣ values.length) :
    values = [] ∨ ∃ s t u v w x y z rest,
      values = s :: t :: u :: v :: w :: x :: y :: z :: rest ∧ 8 ∣ rest.length := by
  rcases values with
    _ | ⟨s, _ | ⟨t, _ | ⟨u, _ | ⟨v, _ | ⟨w, _ | ⟨x, _ | ⟨y, _ | ⟨z, rest⟩⟩⟩⟩⟩⟩⟩⟩
  · exact .inl rfl
  · exact absurd whole (by simp)
  · exact absurd whole (by simp)
  · exact absurd whole (by simp)
  · exact absurd whole (by simp)
  · exact absurd whole (by simp)
  · exact absurd whole (by simp)
  · exact absurd whole (by simp)
  · exact .inr ⟨s, t, u, v, w, x, y, z, rest, rfl,
      (Nat.dvd_add_left (Nat.dvd_refl 8)).mp whole⟩

/-- Digits in whole groups denote, put together, what they denote, and shift as far. -/
theorem toNat_joinedGroups (values : List UInt8) (whole : 8 ∣ values.length)
    (ranged : ∀ digit ∈ values.map UInt8.toNat, digit < 32) :
    Bytes.toNat (joinedGroups values) = Positional.value 32 (values.map UInt8.toNat) ∧
      256 ^ (joinedGroups values).length = 32 ^ values.length := by
  fun_induction joinedGroups values with
  | case1 s t u v w x y z rest ih =>
    have front : s :: t :: u :: v :: w :: x :: y :: z :: rest =
        [s, t, u, v, w, x, y, z] ++ rest := rfl
    rw [front, List.map_append, List.forall_mem_append] at ranged
    obtain ⟨value, shift⟩ := ih ((Nat.dvd_add_left (Nat.dvd_refl 8)).mp whole) ranged.2
    have width : 256 ^ (joined s t u v w x y z).length = 32 ^ [s, t, u, v, w, x, y, z].length := by
      norm_num [joined]
    constructor
    · rw [Bytes.toNat_append, toNat_joined _ _ _ _ _ _ _ _ ranged.1, value, shift, front,
        List.map_append, Positional.value_append, List.length_map]
    · rw [List.length_append, pow_add, shift, front, List.length_append, pow_add, width]
  | case2 values short =>
    obtain rfl | ⟨s, t, u, v, w, x, y, z, rest, rfl, -⟩ := octet_cases values whole
    · exact ⟨rfl, rfl⟩
    · exact (short s t u v w x y z rest rfl).elim

/-- The byte of two digits of which the first is at most 7. -/
theorem toNat_firstJoined (first second : UInt8) (leading : first.toNat ≤ 7)
    (ranged : second.toNat < 32) :
    (first <<< 5 ||| second).toNat = Positional.value 32 ([first, second].map UInt8.toNat) := by
  have byte := toNat_splice first second 5 (by decide) ranged
  simp only [UInt8.reduceToNat, Nat.reducePow] at byte
  simp only [List.map_cons, List.map_nil, Positional.value_cons, Positional.value_nil,
    List.length_cons, List.length_nil, byte, Nat.reduceAdd, Nat.reducePow]
  omega

/-- Digits in base 32 of which the first is at most 7 denote, put together, what they denote. -/
theorem toNat_assemble (d : Vector UInt8 26)
    (ranged : ∀ digit ∈ d.toList.map UInt8.toNat, digit < 32)
    (leading : (d.toList.getD 0 0).toNat ≤ 7) :
    Bytes.toNat (assemble d).toList = Positional.value 32 (d.toList.map UInt8.toNat) := by
  have length : d.toList.length = 26 := Vector.length_toList
  rw [assemble_eq_joinedId]
  generalize d.toList = values at ranged leading length ⊢
  obtain ⟨first, values, rfl⟩ := List.exists_cons_of_length_eq_add_one length
  obtain ⟨second, rest, rfl⟩ := List.exists_cons_of_length_eq_add_one (Nat.succ.inj length)
  have front : first :: second :: rest = [first, second] ++ rest := rfl
  rw [front, List.map_append, List.forall_mem_append] at ranged
  have top := ranged.1 second.toNat (by simp)
  obtain ⟨value, shift⟩ :=
    toNat_joinedGroups rest ⟨3, Nat.succ.inj (Nat.succ.inj length)⟩ ranged.2
  rw [joinedId, Bytes.toNat_cons, toNat_firstJoined first second leading top, value, shift, front,
    List.map_append, Positional.value_append, List.length_map]

end SortableId.Base32
