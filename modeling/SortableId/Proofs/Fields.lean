import Mathlib
import SortableId.Ulid.Basic
import SortableId.Proofs.EntropyValue

/-!
# The two fields of an identifier as numbers

An identifier denotes its timestamp shifted by 80 bits plus its entropy value. Each field is
replaced without a change of the other, so an identifier assembled from a time and an entropy
value denotes the two side by side. The order of identifiers is the order of these numbers.
-/

namespace SortableId.Ulid

/-- An identifier has 128 bits. -/
theorem toNat_lt (id : Ulid) : id.toNat < 2 ^ 128 := by
  have bound := Bytes.toNat_lt id.bytes.toList
  rw [Vector.length_toList] at bound
  exact bound

/-- Identifiers that denote the same number are the same. -/
theorem toNat_injective (left right : Ulid) (same : left.toNat = right.toNat) : left = right := by
  have bytes := Bytes.toNat_injective left.bytes.toList right.bytes.toList (by simp) same
  cases left
  cases right
  exact congrArg Ulid.mk (Vector.toList_inj.mp bytes)

/-- The order of the bytes is the order of the numbers. -/
theorem compare_toNat (left right : Ulid) : compare left right = compare left.toNat right.toNat :=
  Bytes.compare_toNat left.bytes.toList right.bytes.toList (by simp)

/-- Identifiers that start with six bytes of a time and go on with an entropy field denote both
side by side. -/
theorem toNat_parts (time : List UInt8) (entropy : List UInt8) (length : entropy.length = 10) :
    Bytes.toNat (time ++ entropy) = Bytes.toNat time * 2 ^ 80 + Bytes.toNat entropy := by
  rw [Bytes.toNat_append, length]
  norm_num

/-- The timestamp is the number that the first six bytes denote. -/
theorem toNat_timestamp (id : Ulid) :
    id.timestamp.toNat = Bytes.toNat (id.bytes.toList.take 6) := by
  have bound := Bytes.toNat_lt (id.bytes.toList.take 6)
  rw [List.length_take, Vector.length_toList] at bound
  rw [timestamp, Vector.toList_take, UInt64.toNat_ofNat']
  exact Nat.mod_eq_of_lt (Nat.lt_of_lt_of_le bound (by norm_num))

/-- A timestamp has 48 bits. -/
theorem timestamp_lt (id : Ulid) : id.timestamp.toNat < 2 ^ 48 := by
  have bound := Bytes.toNat_lt (id.bytes.toList.take 6)
  rw [List.length_take, Vector.length_toList] at bound
  rw [toNat_timestamp]
  exact bound

/-- The entropy value is the number that the last ten bytes denote. -/
theorem toNat_entropyValue (id : Ulid) :
    id.entropyValue.toNat = Bytes.toNat (id.bytes.toList.drop 6) := by
  rw [entropyValue, UInt80.toNat_ofBytes, entropy, Vector.toList_drop]

/-- An identifier denotes its timestamp and its entropy value side by side. -/
theorem toNat_fields (id : Ulid) :
    id.toNat = id.timestamp.toNat * 2 ^ 80 + id.entropyValue.toNat := by
  rw [toNat_timestamp, toNat_entropyValue, ← toNat_parts _ _ (by simp), List.take_append_drop]
  rfl

/-- Identifiers with the same first six bytes have the same timestamp. -/
theorem timestamp_congr (left right : Ulid)
    (same : ∀ place (inside : place < 16), place < 6 → left.bytes[place] = right.bytes[place]) :
    left.timestamp = right.timestamp := by
  have bytes : left.bytes.toList.take 6 = right.bytes.toList.take 6 := by
    apply List.ext_getElem (by simp)
    intro place inside _
    have early : place < 6 := by simp at inside; omega
    simpa using same place (by omega) early
  rw [← UInt64.toNat_inj, toNat_timestamp, toNat_timestamp, bytes]

/-- Identifiers with the same last ten bytes have the same entropy. -/
theorem entropyValue_congr (left right : Ulid)
    (same : ∀ place (inside : place < 16), 6 ≤ place → left.bytes[place] = right.bytes[place]) :
    left.entropyValue = right.entropyValue := by
  have bytes : left.bytes.toList.drop 6 = right.bytes.toList.drop 6 := by
    apply List.ext_getElem (by simp)
    intro place inside _
    have late : place < 10 := by simpa using inside
    simpa using same (6 + place) (by omega) (by omega)
  apply UInt80.toNat_injective
  rw [toNat_entropyValue, toNat_entropyValue, bytes]

/-- Of the digits of an identifier in base 32 the first ten denote its timestamp and the last
sixteen its entropy. -/
theorem fields_of_digits (id : Ulid) (digits : List Nat) (length : digits.length = 26)
    (ranged : ∀ digit ∈ digits, digit < 32) (same : id.toNat = Positional.value 32 digits) :
    id.timestamp.toNat = Positional.value 32 (digits.take 10) ∧
      id.entropyValue.toNat = Positional.value 32 (digits.drop 10) := by
  have late : (digits.drop 10).length = 16 := by simp [length]
  have low := Positional.value_lt 32 (by decide) (digits.drop 10)
    fun digit mem => ranged digit (List.mem_of_mem_drop mem)
  have parts := Positional.value_append 32 (digits.take 10) (digits.drop 10)
  have entropy := id.entropyValue.toNat_lt
  have fields := id.toNat_fields
  have width : 32 ^ 16 = 2 ^ 80 := by norm_num
  rw [List.take_append_drop, late, width] at parts
  rw [late, width] at low
  omega

/-- The times that fit are the numbers of 48 bits. -/
theorem le_maxTime_iff (ms : UInt64) : ms ≤ maxTime ↔ ms.toNat ≤ 2 ^ 48 - 1 := by
  rw [UInt64.le_iff_toNat_le]
  rfl

/-- An identifier is determined by its two fields. -/
theorem fields_ext (left right : Ulid) (times : left.timestamp = right.timestamp)
    (values : left.entropyValue = right.entropyValue) : left = right := by
  apply toNat_injective
  rw [toNat_fields, toNat_fields, times, values]

/-- An identifier is determined by its timestamp and the bytes of its entropy. -/
theorem eq_of_entropy (left right : Ulid) (times : left.timestamp = right.timestamp)
    (bytes : left.entropy = right.entropy) : left = right := by
  apply fields_ext left right times
  rw [entropyValue, entropyValue, bytes]

/-- Replacing the entropy keeps the timestamp. -/
@[simp] theorem timestamp_withEntropyBytes (id : Ulid) (entropy : Vector UInt8 10) :
    (id.withEntropyBytes entropy).timestamp = id.timestamp := by
  rw [← UInt64.toNat_inj, toNat_timestamp, toNat_timestamp, withEntropyBytes, Vector.toList_append,
    Vector.toList_take, List.take_left' (by simp)]

/-- Replacing the entropy gives the new entropy. -/
@[simp] theorem entropy_withEntropyBytes (id : Ulid) (entropy : Vector UInt8 10) :
    (id.withEntropyBytes entropy).entropy = entropy := by
  apply Vector.toList_inj.mp
  rw [Ulid.entropy, Vector.toList_drop, withEntropyBytes, Vector.toList_append, Vector.toList_take]
  exact List.drop_left' (by simp)

/-- New entropy gives the one identifier with the same time and that entropy. -/
theorem withEntropyBytes_eq_iff (dated id : Ulid) (bytes : Vector UInt8 10) :
    dated.withEntropyBytes bytes = id ↔ id.timestamp = dated.timestamp ∧ bytes = id.entropy := by
  constructor
  · rintro rfl
    rw [timestamp_withEntropyBytes, entropy_withEntropyBytes]
    exact ⟨rfl, rfl⟩
  · rintro ⟨time, rfl⟩
    apply eq_of_entropy
    · rw [timestamp_withEntropyBytes, time]
    · rw [entropy_withEntropyBytes]

/-- Stored as the entropy, a value is the entropy as a number. -/
@[simp] theorem entropyValue_withEntropyBytes (id : Ulid) (value : UInt80) :
    (id.withEntropyBytes value.toBytes).entropyValue = value := by
  rw [entropyValue, entropy_withEntropyBytes, UInt80.ofBytes_toBytes]

/-- A value is stored as the entropy when it is the value of the entropy. -/
theorem toBytes_eq_entropy_iff (id : Ulid) (value : UInt80) :
    value.toBytes = id.entropy ↔ id.entropyValue = value := by
  rw [entropyValue]
  constructor
  · intro stored
    rw [← stored, UInt80.ofBytes_toBytes]
  · rintro rfl
    exact UInt80.toBytes_ofBytes id.entropy

/-- Six bytes of a time in front of an entropy field. -/
theorem fields_of_dated (id : Ulid) (ms : UInt64) (fits : ms.toNat < 2 ^ 48) :
    (Ulid.mk (Bytes.ofNat 6 ms.toNat ++ id.entropy)).timestamp = ms ∧
      (Ulid.mk (Bytes.ofNat 6 ms.toNat ++ id.entropy)).entropy = id.entropy := by
  constructor
  · rw [← UInt64.toNat_inj, toNat_timestamp, Vector.toList_append, List.take_left' (by simp),
      Bytes.toNat_ofNat]
    exact Nat.mod_eq_of_lt fits
  · apply Vector.toList_inj.mp
    rw [Ulid.entropy, Vector.toList_drop, Vector.toList_append]
    exact List.drop_left' (by simp)

/-- A time replaces the timestamp and nothing else, and one that no timestamp holds is refused. -/
theorem withTime_eq_ok_iff (id dated : Ulid) (ms : UInt64) :
    id.withTime ms = .ok dated ↔ dated.timestamp = ms ∧ dated.entropy = id.entropy := by
  rw [withTime]
  split
  · rename_i big
    simp only [reduceCtorEq, false_iff]
    rintro ⟨rfl, -⟩
    have bound := timestamp_lt dated
    exact UInt64.not_lt.mpr ((le_maxTime_iff _).mpr (by omega)) big
  · rename_i small
    have fits := (le_maxTime_iff ms).mp (UInt64.not_lt.mp small)
    obtain ⟨time, entropy⟩ := fields_of_dated id ms (by omega)
    rw [Except.ok.injEq]
    constructor
    · rintro rfl
      exact ⟨time, entropy⟩
    · rintro ⟨sameTime, sameEntropy⟩
      apply eq_of_entropy
      · rw [time, sameTime]
      · rw [entropy, sameEntropy]

/-- A time that fits is taken. -/
theorem exists_withTime (id : Ulid) (ms : UInt64) (fits : ms ≤ maxTime) :
    ∃ dated, id.withTime ms = .ok dated := by
  rw [withTime, if_neg (UInt64.not_lt.mpr fits)]
  exact ⟨_, rfl⟩

/-- Assembly from two fields gives the identifier that has them, and fails when none does. -/
theorem ofParts_eq_ok_iff (ms : UInt64) (value : UInt80) (id : Ulid) :
    ofParts ms value = .ok id ↔ id.timestamp = ms ∧ id.entropyValue = value := by
  have assembled (dated : Ulid) (time : dated.timestamp = ms) :
      dated.withEntropyBytes value.toBytes = id ↔ id.timestamp = ms ∧ id.entropyValue = value := by
    rw [withEntropyBytes_eq_iff, time, toBytes_eq_entropy_iff]
  rw [ofParts]
  cases dated : zero.withTime ms with
  | error cause =>
    simp only [Except.map, reduceCtorEq, false_iff]
    rintro ⟨sameTime, -⟩
    have fits := (withTime_eq_ok_iff zero (id.withEntropyBytes zero.entropy) ms).mpr
      ⟨by rw [timestamp_withEntropyBytes, sameTime], entropy_withEntropyBytes _ _⟩
    rw [dated] at fits
    cases fits
  | ok dated' =>
    have time := ((withTime_eq_ok_iff zero dated' ms).mp dated).1
    simp only [Except.map, Except.ok.injEq]
    exact assembled dated' time

/-- Two fields can be assembled as long as the time fits. -/
theorem exists_ofParts (ms : UInt64) (value : UInt80) (fits : ms ≤ maxTime) :
    ∃ id, ofParts ms value = .ok id := by
  obtain ⟨dated, taken⟩ := exists_withTime zero ms fits
  rw [ofParts, taken]
  exact ⟨_, rfl⟩

end SortableId.Ulid
