import Mathlib
import SortableId.Bytes

/-!
# Positional notation

Digits denote a number in a base, the most significant digit first. Among digit lists of one
length the order from the left is the order of the numbers denoted, so no two of them denote the
same number. Bytes are such digits in base 256; `Bytes.toNat` and `Bytes.ofNat` are inverse on the
numbers that fit.
-/

namespace SortableId

namespace Positional

/-- The number that digits denote in a base, most significant digit first. -/
def value (base : Nat) (digits : List Nat) : Nat := Nat.ofDigits base digits.reverse

/-- No digits denote zero. -/
@[simp] theorem value_nil (base : Nat) : value base [] = 0 := rfl

/-- A leading digit counts as often as all the digits after it have combinations. -/
theorem value_cons (base digit : Nat) (digits : List Nat) :
    value base (digit :: digits) = digit * base ^ digits.length + value base digits := by
  rw [value, Nat.ofDigits_reverse_cons, value]
  ring

/-- Digits in front of others are shifted by their count. -/
theorem value_append (base : Nat) (left right : List Nat) :
    value base (left ++ right) = value base left * base ^ right.length + value base right := by
  rw [value, List.reverse_append, Nat.ofDigits_append, List.length_reverse, value, value]
  ring

/-- Digits below the base denote less than all the combinations of their count. -/
theorem value_lt (base : Nat) (large : 1 < base) (digits : List Nat)
    (ranged : ∀ digit ∈ digits, digit < base) : value base digits < base ^ digits.length := by
  have bound := Nat.ofDigits_lt_base_pow_length large (l := digits.reverse)
    (by simpa using ranged)
  simpa [value] using bound

/-- The number as the sum of its digits, each times the power of the base at its place. -/
theorem value_eq_sum (base : Nat) (digits : List Nat) :
    value base digits =
      ∑ place ∈ Finset.range digits.length,
        digits.getD place 0 * base ^ (digits.length - 1 - place) := by
  induction digits with
  | nil => simp
  | cons digit digits ih =>
    rw [value_cons, ih, List.length_cons, Finset.sum_range_succ', Nat.add_comm]
    simp only [List.getD_cons_succ, List.getD_cons_zero, Nat.add_sub_cancel, Nat.sub_zero]
    congr 1
    apply Finset.sum_congr rfl
    intro place _
    have later : digits.length - (place + 1) = digits.length - 1 - place := by omega
    rw [later]

/-- Of two numbers, each a high part over a low part that fits below it, the high parts decide,
then the low parts. -/
theorem compare_parts (unit high low otherHigh otherLow : Nat) (fits : low < unit)
    (otherFits : otherLow < unit) :
    compare (high * unit + low) (otherHigh * unit + otherLow) =
      (compare high otherHigh).then (compare low otherLow) := by
  rcases Nat.lt_trichotomy high otherHigh with less | rfl | greater
  · have step := Nat.mul_le_mul_right unit (Nat.succ_le_of_lt less)
    rw [Nat.succ_mul] at step
    have numbers : high * unit + low < otherHigh * unit + otherLow := by omega
    rw [Nat.compare_eq_lt.mpr less, Nat.compare_eq_lt.mpr numbers]
    rfl
  · simp only [Nat.compare_eq_ite_lt, Nat.lt_irrefl, ↓reduceIte, Ordering.eq_then,
      Nat.add_lt_add_iff_left]
  · have step := Nat.mul_le_mul_right unit (Nat.succ_le_of_lt greater)
    rw [Nat.succ_mul] at step
    have numbers : otherHigh * unit + otherLow < high * unit + low := by omega
    rw [Nat.compare_eq_gt.mpr greater, Nat.compare_eq_gt.mpr numbers]
    rfl

/-- Digit lists of one length are ordered from the left as the numbers they denote. -/
theorem compare_value (base : Nat) (large : 1 < base) (left right : List Nat)
    (length : left.length = right.length) (leftRanged : ∀ digit ∈ left, digit < base)
    (rightRanged : ∀ digit ∈ right, digit < base) :
    compare left right = compare (value base left) (value base right) := by
  induction left generalizing right with
  | nil =>
    obtain rfl := List.length_eq_zero_iff.mp length.symm
    rfl
  | cons first left ih =>
    obtain ⟨second, right, rfl⟩ := List.exists_cons_of_length_eq_add_one length.symm
    have same : left.length = right.length := by simpa using length
    have leftTail : ∀ digit ∈ left, digit < base := fun digit mem =>
      leftRanged digit (List.mem_cons_of_mem first mem)
    have rightTail : ∀ digit ∈ right, digit < base := fun digit mem =>
      rightRanged digit (List.mem_cons_of_mem second mem)
    have leftLow := value_lt base large left leftTail
    have rightLow := value_lt base large right rightTail
    rw [← same] at rightLow
    rw [List.compare_cons_cons, ih right same leftTail rightTail, value_cons, value_cons, ← same,
      compare_parts _ _ _ _ _ leftLow rightLow]

/-- Digit lists of one length that denote the same number are the same. -/
theorem value_injective (base : Nat) (large : 1 < base) (left right : List Nat)
    (length : left.length = right.length) (leftRanged : ∀ digit ∈ left, digit < base)
    (rightRanged : ∀ digit ∈ right, digit < base) (same : value base left = value base right) :
    left = right := by
  have reversed := Nat.ofDigits_inj_of_len_eq large (by simpa using length)
    (by simpa using leftRanged) (by simpa using rightRanged) same
  exact List.reverse_injective reversed

/-- The digits of a number by division: the last is the remainder by the base, and the ones before
are the digits of the quotient. -/
def digits (base : Nat) : (count number : Nat) → List Nat
  | 0, _ => []
  | count + 1, number => digits base count (number / base) ++ [number % base]

/-- Division makes as many digits as are asked for. -/
@[simp] theorem length_digits (base count number : Nat) :
    (digits base count number).length = count := by
  induction count generalizing number with
  | zero => rfl
  | succ count ih => simp [digits, ih]

/-- The digit at a place is what is left of the number there, less what the digits before it
denote. -/
theorem getElem?_digits (base count number place : Nat) (inside : place < count) :
    (digits base count number)[place]? = some (number / base ^ (count - 1 - place) % base) := by
  induction count generalizing number with
  | zero => exact absurd inside (Nat.not_lt_zero place)
  | succ count ih =>
    rw [digits, Nat.add_sub_cancel]
    by_cases last : place = count
    · rw [last, List.getElem?_append_right (by simp)]
      simp
    · have before : place < count := by omega
      have shift : count - place = (count - 1 - place) + 1 := by omega
      rw [List.getElem?_append_left (by simpa using before), ih _ before, shift, pow_succ',
        Nat.div_div_eq_div_mul]

/-- Division gives the digits back from the number that they denote. -/
theorem digits_value (base : Nat) (list : List Nat) (ranged : ∀ digit ∈ list, digit < base) :
    digits base list.length (value base list) = list := by
  -- From the last digit, which is the one that a division takes off.
  induction list using List.reverseRecOn with
  | nil => rfl
  | append_singleton list last ih =>
    have small : last < base := ranged last (by simp)
    have positive : 0 < base := Nat.zero_lt_of_lt small
    have number : value base (list ++ [last]) = last + base * value base list := by
      rw [value_append, value_cons, value_nil, List.length_singleton, List.length_nil]
      ring
    have quotient : value base (list ++ [last]) / base = value base list := by
      rw [number, Nat.add_mul_div_left _ _ positive, Nat.div_eq_of_lt small, Nat.zero_add]
    have remainder : value base (list ++ [last]) % base = last := by
      rw [number, Nat.add_mul_mod_self_left, Nat.mod_eq_of_lt small]
    have front := ih fun digit mem => ranged digit (List.mem_append_left _ mem)
    rw [List.length_append, List.length_singleton, digits, quotient, remainder, front]

end Positional

namespace Bytes

/-- No bytes denote zero. -/
theorem toNat_nil : toNat [] = 0 := rfl

/-- Every byte is a digit in base 256. -/
theorem digits_ranged (bytes : List UInt8) : ∀ digit ∈ bytes.map UInt8.toNat, digit < 256 := by
  intro digit mem
  obtain ⟨byte, -, rfl⟩ := List.mem_map.mp mem
  exact byte.toNat_lt

/-- Bytes denote the number whose digits they are in base 256. -/
theorem toNat_eq_value (bytes : List UInt8) :
    toNat bytes = Positional.value 256 (bytes.map UInt8.toNat) := by
  have general (high : Nat) : bytes.foldl (fun high byte => high * 256 + byte.toNat) high =
      high * 256 ^ bytes.length + Positional.value 256 (bytes.map UInt8.toNat) := by
    induction bytes generalizing high with
    | nil => simp
    | cons byte bytes ih =>
      rw [List.foldl_cons, ih, List.map_cons, Positional.value_cons, List.length_map,
        List.length_cons, pow_succ]
      ring
  rw [toNat, general 0, Nat.zero_mul, Nat.zero_add]

/-- A leading byte is shifted by the count of the bytes after it. -/
theorem toNat_cons (byte : UInt8) (bytes : List UInt8) :
    toNat (byte :: bytes) = byte.toNat * 256 ^ bytes.length + toNat bytes := by
  simp [toNat_eq_value, Positional.value_cons]

/-- Bytes in front of others are shifted by the count of the others. -/
theorem toNat_append (left right : List UInt8) :
    toNat (left ++ right) = toNat left * 256 ^ right.length + toNat right := by
  simp [toNat_eq_value, Positional.value_append]

/-- Bytes denote less than all the combinations of their count. -/
theorem toNat_lt (bytes : List UInt8) : toNat bytes < 256 ^ bytes.length := by
  have bound := Positional.value_lt 256 (by decide) _ (digits_ranged bytes)
  rwa [List.length_map, ← toNat_eq_value] at bound

/-- Byte lists of one length that denote the same number are the same. -/
theorem toNat_injective (left right : List UInt8) (length : left.length = right.length)
    (same : toNat left = toNat right) : left = right := by
  rw [toNat_eq_value, toNat_eq_value] at same
  have digits := Positional.value_injective 256 (by decide) _ _ (by simpa using length)
    (digits_ranged left) (digits_ranged right) same
  exact List.map_injective_iff.mpr (fun _ _ => UInt8.toNat_inj.mp) digits

/-- Two bytes are ordered as the numbers they are. -/
theorem compare_byte (left right : UInt8) :
    compare left right = compare left.toNat right.toNat := by
  simp only [compare, compareOfLessAndEq, UInt8.lt_iff_toNat_lt, ← UInt8.toNat_inj]

/-- Lists mapped to comparable values are ordered alike by two maps that order alike. -/
theorem compare_map_congr {α β γ : Type} [Ord β] [Ord γ] (f : α → β) (g : α → γ)
    (alike : ∀ left right, compare (f left) (f right) = compare (g left) (g right))
    (left right : List α) :
    compare (left.map f) (right.map f) = compare (left.map g) (right.map g) := by
  induction left generalizing right with
  | nil => cases right <;> rfl
  | cons first left ih =>
    cases right with
    | nil => rfl
    | cons second right => simp only [List.map_cons, List.compare_cons_cons, alike, ih]

/-- Byte lists of one length are ordered as the numbers they denote. -/
theorem compare_toNat (left right : List UInt8) (length : left.length = right.length) :
    compare left right = compare (toNat left) (toNat right) := by
  have digits := compare_map_congr id UInt8.toNat compare_byte left right
  rw [List.map_id, List.map_id] at digits
  rw [digits, toNat_eq_value, toNat_eq_value]
  exact Positional.compare_value 256 (by decide) _ _ (by simpa using length)
    (digits_ranged left) (digits_ranged right)

/-- The first byte written of a number is the one at the highest place. -/
theorem ofNat_succ (size value : Nat) :
    (ofNat (size + 1) value).toList =
      UInt8.ofNat (value / 256 ^ size) :: (ofNat size value).toList := by
  have place : value >>> (8 * size) = value / 256 ^ size := by
    rw [Nat.shiftRight_eq_div_pow, pow_mul]
    norm_num
  simp only [ofNat, Vector.toList_ofFn, List.ofFn_succ, Fin.val_zero, Nat.sub_zero,
    Nat.add_sub_cancel, Fin.val_succ, place]
  congr 2
  funext index
  congr 3
  omega

/-- The low bytes of a number denote its remainder. -/
theorem toNat_ofNat (size value : Nat) :
    toNat (ofNat size value).toList = value % 256 ^ size := by
  induction size with
  | zero =>
    have empty : (ofNat 0 value).toList = [] := List.length_eq_zero_iff.mp (by simp)
    rw [empty, pow_zero, Nat.mod_one]
    rfl
  | succ size ih =>
    rw [ofNat_succ, toNat_cons, ih, Vector.length_toList, Nat.mod_pow_succ]
    simp only [UInt8.toNat_ofNat']
    ring

/-- Writing the number that bytes denote gives the bytes back. -/
theorem ofNat_toNat {size : Nat} (bytes : Vector UInt8 size) :
    ofNat size (toNat bytes.toList) = bytes := by
  apply Vector.toList_inj.mp
  apply toNat_injective _ _ (by simp)
  rw [toNat_ofNat]
  have bound := toNat_lt bytes.toList
  rw [Vector.length_toList] at bound
  exact Nat.mod_eq_of_lt bound

end Bytes

end SortableId
