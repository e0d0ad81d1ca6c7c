import Mathlib
import SortableId.UInt80
import SortableId.Proofs.Positional

/-!
# Entropy values as numbers

`UInt80.toNat` reads the two words of an entropy value as one number below `2 ^ 80`. Loading and
storing bytes keep that number, the order of the words is its order, and addition is exact: the
flag of an overflowing addition and the refusal of a checked one say that the sum needs more than
80 bits, never that only the low word carried.
-/

namespace SortableId.UInt80

/-- An entropy value has 80 bits. -/
theorem toNat_lt (value : UInt80) : value.toNat < 2 ^ 80 := by
  have high := value.hi.toNat_lt
  have low := value.lo.toNat_lt
  simp only [toNat, UInt64.size]
  omega

/-- Values that denote the same number are the same. -/
theorem toNat_injective (left right : UInt80) (same : left.toNat = right.toNat) : left = right := by
  obtain ⟨leftHigh, leftLow⟩ := left
  obtain ⟨rightHigh, rightLow⟩ := right
  have leftBound := leftLow.toNat_lt
  have rightBound := rightLow.toNat_lt
  simp only [toNat, UInt64.size] at same
  have high : leftHigh = rightHigh := UInt16.toNat_inj.mp (by omega)
  have low : leftLow = rightLow := UInt64.toNat_inj.mp (by omega)
  rw [high, low]

/-- The order of the words is the order of the numbers. -/
theorem compare_toNat (left right : UInt80) :
    compare left right = compare left.toNat right.toNat := by
  have high : compare left.hi right.hi = compare left.hi.toNat right.hi.toNat := by
    simp only [compare, compareOfLessAndEq, UInt16.lt_iff_toNat_lt, ← UInt16.toNat_inj]
  have low : compare left.lo right.lo = compare left.lo.toNat right.lo.toNat := by
    simp only [compare, compareOfLessAndEq, UInt64.lt_iff_toNat_lt, ← UInt64.toNat_inj]
  rw [toNat, toNat, Positional.compare_parts _ _ _ _ _ left.lo.toNat_lt right.lo.toNat_lt, ← high,
    ← low]
  rfl

/-- Loading bytes keeps the number that they denote. -/
theorem toNat_ofBytes (bytes : Vector UInt8 10) :
    (ofBytes bytes).toNat = Bytes.toNat bytes.toList := by
  have parts := Bytes.toNat_append (bytes.toList.take 2) (bytes.toList.drop 2)
  have high := Bytes.toNat_lt (bytes.toList.take 2)
  have low := Bytes.toNat_lt (bytes.toList.drop 2)
  simp only [List.take_append_drop, List.length_take, List.length_drop, Vector.length_toList]
    at parts high low
  simp only [ofBytes, toNat, Vector.toList_take, Vector.toList_drop, UInt16.toNat_ofNat',
    UInt64.toNat_ofNat', UInt64.size]
  rw [Nat.mod_eq_of_lt (by simpa using high), Nat.mod_eq_of_lt (by simpa using low), parts]
  norm_num

/-- Storing bytes keeps the number. -/
theorem toNat_toBytes (value : UInt80) : Bytes.toNat value.toBytes.toList = value.toNat := by
  have high := value.hi.toNat_lt
  have low := value.lo.toNat_lt
  rw [toBytes, Vector.toList_append, Bytes.toNat_append, Bytes.toNat_ofNat, Bytes.toNat_ofNat,
    Vector.length_toList, Nat.mod_eq_of_lt (by omega), Nat.mod_eq_of_lt (by omega)]
  norm_num [toNat, UInt64.size]

/-- A value stored and loaded again is the value. -/
theorem ofBytes_toBytes (value : UInt80) : ofBytes value.toBytes = value :=
  toNat_injective _ _ (by rw [toNat_ofBytes, toNat_toBytes])

/-- Bytes loaded and stored again are the bytes. -/
theorem toBytes_ofBytes (bytes : Vector UInt8 10) : (ofBytes bytes).toBytes = bytes := by
  apply Vector.toList_inj.mp
  apply Bytes.toNat_injective _ _ (by simp)
  rw [toNat_toBytes, toNat_ofBytes]

/-- What is stored is the number in ten bytes. -/
theorem toBytes_eq (value : UInt80) : value.toBytes = Bytes.ofNat 10 value.toNat := by
  rw [← toNat_toBytes, Bytes.ofNat_toNat]

/-- Every number of 80 bits is denoted. -/
theorem exists_toNat (number : Nat) (small : number < 2 ^ 80) :
    ∃ value : UInt80, value.toNat = number := by
  refine ⟨ofBytes (Bytes.ofNat 10 number), ?_⟩
  rw [toNat_ofBytes, Bytes.toNat_ofNat]
  exact Nat.mod_eq_of_lt (by omega)

/-- An overflowing addition loses `2 ^ 80` exactly when it raises its flag. -/
theorem overflowingAdd_parts (value : UInt80) (addend : UInt64) :
    value.toNat + addend.toNat =
      (value.overflowingAdd addend).2.toNat * 2 ^ 80 + (value.overflowingAdd addend).1.toNat := by
  have high := value.hi.toNat_lt
  have low := value.lo.toNat_lt
  have added := addend.toNat_lt
  by_cases carry : value.lo + addend < value.lo
  · simp only [overflowingAdd, carry, ↓reduceIte]
    rw [UInt64.lt_iff_toNat_lt, UInt64.toNat_add] at carry
    have bumped : (value.hi + 1).toNat = (value.hi.toNat + 1) % 2 ^ 16 := by
      rw [UInt16.toNat_add]
      rfl
    -- Only the largest high word cannot take the carry.
    by_cases wraps : value.hi + 1 = 0
    · rw [wraps, UInt16.toNat_zero] at bumped
      simp only [wraps, beq_self_eq_true, Bool.toNat_true, toNat, UInt64.size, UInt16.toNat_zero,
        UInt64.toNat_add]
      omega
    · have nonzero : (value.hi + 1).toNat ≠ 0 := fun zero => wraps (UInt16.toNat_inj.mp zero)
      simp only [beq_eq_false_iff_ne.mpr wraps, Bool.toNat_false, toNat, UInt64.size, bumped,
        UInt64.toNat_add]
      omega
  · simp only [overflowingAdd, carry, ↓reduceIte, Bool.toNat_false, toNat, UInt64.size,
      UInt64.toNat_add]
    rw [UInt64.lt_iff_toNat_lt, UInt64.toNat_add] at carry
    omega

/-- An overflowing addition is the sum modulo `2 ^ 80`. -/
theorem toNat_overflowingAdd (value : UInt80) (addend : UInt64) :
    (value.overflowingAdd addend).1.toNat = (value.toNat + addend.toNat) % 2 ^ 80 := by
  have parts := overflowingAdd_parts value addend
  have small := toNat_lt (value.overflowingAdd addend).1
  omega

/-- The flag is raised exactly when the sum needs more than 80 bits. -/
theorem overflowingAdd_flag (value : UInt80) (addend : UInt64) :
    (value.overflowingAdd addend).2 = decide (2 ^ 80 ≤ value.toNat + addend.toNat) := by
  have parts := overflowingAdd_parts value addend
  have small := toNat_lt (value.overflowingAdd addend).1
  cases raised : (value.overflowingAdd addend).2 with
  | false =>
    rw [raised, Bool.toNat_false] at parts
    rw [eq_comm, decide_eq_false_iff_not]
    omega
  | true =>
    rw [raised, Bool.toNat_true] at parts
    rw [eq_comm, decide_eq_true_iff]
    omega

/-- A checked addition succeeds with the exact sum, exactly when that has 80 bits. -/
theorem checkedAdd_eq_some_iff (value sum : UInt80) (addend : UInt64) :
    value.checkedAdd addend = some sum ↔ sum.toNat = value.toNat + addend.toNat := by
  have wrapped := toNat_overflowingAdd value addend
  have flag := overflowingAdd_flag value addend
  have fits := toNat_lt sum
  rw [checkedAdd]
  cases total : value.overflowingAdd addend with
  | mk result raised =>
    simp only [total] at wrapped flag
    cases raised with
    | false =>
      have small := of_decide_eq_false flag.symm
      rw [Nat.mod_eq_of_lt (by omega)] at wrapped
      simp only [Option.some.injEq]
      constructor
      · rintro rfl
        exact wrapped
      · intro exactSum
        exact toNat_injective _ _ (by rw [wrapped, exactSum])
    | true =>
      have large := of_decide_eq_true flag.symm
      simp only [reduceCtorEq, false_iff]
      omega

/-- A checked addition is refused exactly when the sum needs more than 80 bits. -/
theorem checkedAdd_eq_none_iff (value : UInt80) (addend : UInt64) :
    value.checkedAdd addend = none ↔ 2 ^ 80 ≤ value.toNat + addend.toNat := by
  constructor
  · intro refused
    by_contra small
    obtain ⟨sum, total⟩ := exists_toNat _ (Nat.lt_of_not_le small)
    rw [(checkedAdd_eq_some_iff value sum addend).mpr total] at refused
    exact nomatch refused
  · intro large
    cases added : value.checkedAdd addend with
    | none => rfl
    | some sum =>
      have total := (checkedAdd_eq_some_iff value sum addend).mp added
      have fits := sum.toNat_lt
      omega

end SortableId.UInt80
