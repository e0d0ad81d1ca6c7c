import Mathlib
import SortableId.Source.Plain
import SortableId.Proofs.Drawing

/-!
# Increments without bias

A read for an increment is a number of as many bits as the largest increment needs: the bytes as
they stand, less the excess bits of the first. Each of these numbers comes from equally many reads,
and the reads that are accepted are those whose number is an increment, so all increments are
equally likely. A number of these bits is an increment at least as often as not, since the largest
increment has the highest of them.
-/

namespace SortableId

namespace Bytes

/-- As many byte sequences of a size denote numbers of a kind as there are such numbers below the
count of all sequences. -/
theorem card_of_toNat (size : Nat) (kind : Nat → Prop) [DecidablePred kind] :
    Nat.card {bytes : Vector UInt8 size // kind (toNat bytes.toList)} =
      Nat.count kind (256 ^ size) := by
  have small (bytes : Vector UInt8 size) : toNat bytes.toList < 256 ^ size := by
    have bound := toNat_lt bytes.toList
    rwa [Vector.length_toList] at bound
  have read (number : {number // number < 256 ^ size ∧ kind number}) :
      toNat (ofNat size number.val).toList = number.val := by
    rw [toNat_ofNat]
    exact Nat.mod_eq_of_lt number.property.1
  calc Nat.card {bytes : Vector UInt8 size // kind (toNat bytes.toList)}
      = Nat.card {number // number < 256 ^ size ∧ kind number} := Nat.card_congr {
          toFun := fun bytes => ⟨toNat bytes.val.toList, small bytes.val, bytes.property⟩
          invFun := fun number => ⟨ofNat size number.val, by rw [read]; exact number.property.2⟩
          left_inv := fun bytes => Subtype.ext (ofNat_toNat bytes.val)
          right_inv := fun number => Subtype.ext (read number) }
    _ = ((Finset.range (256 ^ size)).filter kind).card :=
        Nat.subtype_card _ fun number => by rw [Finset.mem_filter, Finset.mem_range]
    _ = Nat.count kind (256 ^ size) := (Nat.count_eq_card_filter_range kind _).symm

/-- All byte sequences of a size. -/
theorem card_vector (size : Nat) : Nat.card (Vector UInt8 size) = 2 ^ (8 * size) := by
  have all := card_of_toNat size fun _ => True
  rw [Nat.card_congr (Equiv.subtypeUnivEquiv fun _ => trivial), Nat.count_true] at all
  rw [all, pow_mul]
  norm_num

/-- Of the byte sequences of a size equally many end in each number of some bits. -/
theorem card_of_low_bits (size bits low : Nat) (fits : bits ≤ 8 * size) (small : low < 2 ^ bits) :
    Nat.card {bytes : Vector UInt8 size // toNat bytes.toList % 2 ^ bits = low} =
      2 ^ (8 * size - bits) := by
  have total : 256 ^ size = 2 ^ (8 * size - bits) * 2 ^ bits := by
    rw [← pow_add, Nat.sub_add_cancel fits, pow_mul]
    norm_num
  have residue : (fun number => number % 2 ^ bits = low) = (· ≡ low [MOD 2 ^ bits]) := by
    funext number
    rw [Nat.ModEq, Nat.mod_eq_of_lt small]
  rw [card_of_toNat size fun number => number % 2 ^ bits = low]
  simp only [residue]
  rw [Nat.count_modEq_card _ (Nat.two_pow_pos bits), total, Nat.mul_mod_left,
    if_neg (Nat.not_lt_zero _), Nat.add_zero, Nat.mul_div_cancel _ (Nat.two_pow_pos bits)]

/-- Those that end in one of several consecutive numbers are as many times more. -/
theorem card_of_low_bits_between (size bits first last : Nat) (fits : bits ≤ 8 * size)
    (small : last ≤ 2 ^ bits) :
    Nat.card {bytes : Vector UInt8 size //
        first ≤ toNat bytes.toList % 2 ^ bits ∧ toNat bytes.toList % 2 ^ bits < last} =
      (last - first) * 2 ^ (8 * size - bits) := by
  have each (low : Nat) (mem : low ∈ Finset.Ico first last) :
      ((Finset.range (256 ^ size)).filter fun number => number % 2 ^ bits = low).card =
        2 ^ (8 * size - bits) := by
    have bound : low < 2 ^ bits := Nat.lt_of_lt_of_le (Finset.mem_Ico.mp mem).2 small
    rw [← card_of_low_bits size bits low fits bound,
      card_of_toNat size fun number => number % 2 ^ bits = low, Nat.count_eq_card_filter_range]
  rw [card_of_toNat size fun number => first ≤ number % 2 ^ bits ∧ number % 2 ^ bits < last,
    Nat.count_eq_card_filter_range,
    Finset.card_eq_sum_card_fiberwise (f := (· % 2 ^ bits)) (t := Finset.Ico first last)
      fun number mem => Finset.mem_Ico.mpr (Finset.mem_filter.mp mem).2]
  calc ∑ low ∈ Finset.Ico first last, _
      = ∑ low ∈ Finset.Ico first last, 2 ^ (8 * size - bits) := by
        apply Finset.sum_congr rfl
        intro low mem
        rw [← each low mem, Finset.filter_filter]
        congr 1
        apply Finset.filter_congr
        intro number _
        constructor
        · exact fun both => both.2
        · rintro rfl
          exact ⟨Finset.mem_Ico.mp mem, rfl⟩
    _ = (last - first) * 2 ^ (8 * size - bits) := by
        rw [Finset.sum_const, Nat.card_Ico, smul_eq_mul]

end Bytes

namespace Increment

/-- A number that is not zero has its highest bit at its bit length. -/
theorem bitLength_spec (n : UInt64) (nonzero : n ≠ 0) :
    2 ^ (bitLength n - 1) ≤ n.toNat ∧ n.toNat < 2 ^ bitLength n := by
  have positive : n.toNat ≠ 0 := fun zero => nonzero (UInt64.toNat_inj.mp zero)
  rw [bitLength, if_neg nonzero, Nat.add_sub_cancel]
  exact ⟨Nat.log2_self_le positive, Nat.lt_log2_self⟩

/-- It needs at least one bit and at most those of a word. -/
theorem bitLength_bounds (n : UInt64) (nonzero : n ≠ 0) :
    1 ≤ bitLength n ∧ bitLength n ≤ 64 := by
  have first : 1 ≤ bitLength n := by
    rw [bitLength, if_neg nonzero]
    exact Nat.le_add_left 1 _
  have highest := (bitLength_spec n nonzero).1
  have word := n.toNat_lt
  have power := Nat.lt_of_le_of_lt highest word
  have last : bitLength n - 1 < 64 := (Nat.pow_lt_pow_iff_right (by decide)).mp power
  exact ⟨first, by omega⟩

/-- The bytes of a number hold its bits, and without the first they would not. -/
theorem byteLength_spec (n : UInt64) (nonzero : n ≠ 0) :
    8 * (byteLength n - 1) < bitLength n ∧ bitLength n ≤ 8 * byteLength n := by
  have bits := bitLength_bounds n nonzero
  rw [byteLength]
  omega

/-- It needs at least one byte and at most those of a word. -/
theorem byteLength_bounds (n : UInt64) (nonzero : n ≠ 0) :
    1 ≤ byteLength n ∧ byteLength n ≤ 8 := by
  have bits := bitLength_bounds n nonzero
  rw [byteLength]
  omega

/-- The bits of a number in its first byte. -/
def leadingBits (n : UInt64) : Nat := bitLength n - 8 * (byteLength n - 1)

/-- The mask of the first byte keeps its bits. -/
theorem toNat_leadingMask (n : UInt64) (nonzero : n ≠ 0) :
    (leadingMask n).toNat = 2 ^ leadingBits n - 1 := by
  have shifted : ∀ bits < 8, bits ≠ 0 →
      ((0xFF : UInt8) >>> UInt8.ofNat (8 - bits)).toNat = 2 ^ bits - 1 := by decide
  have bounds := bitLength_bounds n nonzero
  rw [leadingMask]
  split
  · rename_i whole
    have all : leadingBits n = 8 := by
      rw [leadingBits, byteLength]
      omega
    rw [all]
    rfl
  · rename_i excess
    have partly : bitLength n % 8 ≠ 0 := excess
    have part : leadingBits n = bitLength n % 8 := by
      rw [leadingBits, byteLength]
      omega
    rw [part]
    exact shifted _ (Nat.mod_lt _ (by decide)) partly

/-- The number of a read is that of its bytes less the excess bits. -/
theorem toNat_candidate (n : UInt64) (nonzero : n ≠ 0) (bytes : Vector UInt8 (byteLength n)) :
    (candidate (leadingMask n) bytes.toList).toNat =
      Bytes.toNat bytes.toList % 2 ^ bitLength n := by
  have sizes := byteLength_bounds n nonzero
  have length : bytes.toList.length = byteLength n := Vector.length_toList
  cases split : bytes.toList with
  | nil =>
    rw [split, List.length_nil] at length
    omega
  | cons first rest =>
    rw [split, List.length_cons] at length
    have bits : bitLength n = 8 * rest.length + leadingBits n := by
      have spec := byteLength_spec n nonzero
      rw [leadingBits]
      omega
    have low := Bytes.toNat_lt rest
    have power : 256 ^ rest.length = 2 ^ (8 * rest.length) := by
      rw [pow_mul]
      norm_num
    rw [power] at low
    have masked : Bytes.toNat ((first &&& leadingMask n) :: rest) =
        Bytes.toNat (first :: rest) % 2 ^ bitLength n := by
      rw [Bytes.toNat_cons, Bytes.toNat_cons, UInt8.toNat_and, toNat_leadingMask n nonzero,
        Nat.and_two_pow_sub_one_eq_mod, bits, pow_add, Nat.mod_mul, power, Nat.mul_comm first.toNat,
        Nat.mul_add_mod, Nat.mul_add_div (Nat.two_pow_pos _), Nat.mod_eq_of_lt low,
        Nat.div_eq_of_lt low, Nat.add_zero]
      ring
    have fits : Bytes.toNat (first :: rest) % 2 ^ bitLength n < UInt64.size := by
      have below := Nat.mod_lt (Bytes.toNat (first :: rest)) (Nat.two_pow_pos (bitLength n))
      exact Nat.lt_of_lt_of_le below
        (Nat.pow_le_pow_right (by decide) (bitLength_bounds n nonzero).2)
    rw [candidate, masked]
    exact UInt64.toNat_ofNat_of_lt' fits

/-- The increment that a read is accepted as, if it is. -/
def accepted? (bound : UInt64) (bytes : Vector UInt8 (byteLength (bound - 1))) : Option UInt64 :=
  let found := candidate (leadingMask (bound - 1)) bytes.toList
  if accepts bound found then some found else none

/-- No step of a draw leaves the range of its type: what is computed in words and bytes is what it
would be in the whole numbers. -/
structure Exact (bound : UInt64) : Prop where
  /-- The largest increment is one less than the bound, and not zero. -/
  largest : (bound - 1).toNat + 1 = bound.toNat ∧ bound - 1 ≠ 0
  /-- Its bits are those of a word at most. -/
  bits : 1 ≤ bitLength (bound - 1) ∧ bitLength (bound - 1) ≤ 64
  /-- A read has a first byte and fits in a word. -/
  bytes : 1 ≤ byteLength (bound - 1) ∧ byteLength (bound - 1) ≤ 8
  /-- The mask is shifted by less than the bits of a byte. -/
  shift : bitLength (bound - 1) % 8 ≠ 0 →
    (UInt8.ofNat (8 - bitLength (bound - 1) % 8)).toNat = 8 - bitLength (bound - 1) % 8 ∧
      8 - bitLength (bound - 1) % 8 < 8
  /-- It keeps the bits of the first byte, at least one and at most all. -/
  mask : (leadingMask (bound - 1)).toNat = 2 ^ leadingBits (bound - 1) - 1 ∧
    1 ≤ leadingBits (bound - 1) ∧ leadingBits (bound - 1) ≤ 8
  /-- One more than a native answer is no more than the largest increment. -/
  sum : ∀ answer < bound - 1, (1 + answer).toNat = 1 + answer.toNat

/-- A bound above 1 leaves a largest increment. -/
theorem toNat_largest (bound : UInt64) (large : 2 ≤ bound) :
    (bound - 1).toNat + 1 = bound.toNat ∧ bound - 1 ≠ 0 := by
  have two : 2 ≤ bound.toNat := UInt64.le_iff_toNat_le.mp large
  have one : (1 : UInt64) ≤ bound := UInt64.le_trans (by decide) large
  have less : (bound - 1).toNat = bound.toNat - 1 := UInt64.toNat_sub_of_le bound 1 one
  refine ⟨by omega, ?_⟩
  intro zero
  rw [zero] at less
  simp only [UInt64.toNat_zero] at less
  omega

/-- Draws for a bound above 1 are exact. -/
theorem exact_of_large (bound : UInt64) (large : 2 ≤ bound) : Exact bound := by
  have largest := toNat_largest bound large
  have spec := byteLength_spec (bound - 1) largest.2
  refine ⟨largest, bitLength_bounds _ largest.2, byteLength_bounds _ largest.2, ?_,
    ⟨toNat_leadingMask _ largest.2, ?_⟩, ?_⟩
  · intro part
    rw [UInt8.toNat_ofNat']
    omega
  · rw [leadingBits]
    omega
  · intro answer small
    have below := UInt64.lt_iff_toNat_lt.mp small
    have word := bound.toNat_lt
    rw [UInt64.toNat_add, UInt64.toNat_one]
    omega

/-- A read is accepted as its number, if that is an increment. -/
theorem accepted?_eq_some_iff (bound : UInt64) (large : 2 ≤ bound)
    (bytes : Vector UInt8 (byteLength (bound - 1))) (increment : UInt64) :
    accepted? bound bytes = some increment ↔
      (1 ≤ increment ∧ increment < bound) ∧
        Bytes.toNat bytes.toList % 2 ^ bitLength (bound - 1) = increment.toNat := by
  have number := toNat_candidate (bound - 1) (toNat_largest bound large).2 bytes
  rw [← number, UInt64.toNat_inj, accepted?]
  split
  · rename_i accepted
    rw [accepts, Bool.and_eq_true, decide_eq_true_iff, decide_eq_true_iff] at accepted
    rw [Option.some.injEq]
    constructor
    · rintro rfl
      exact ⟨accepted, rfl⟩
    · exact fun both => both.2
  · rename_i refused
    rw [accepts, Bool.and_eq_true, decide_eq_true_iff, decide_eq_true_iff] at refused
    constructor
    · exact fun none => by cases none
    · rintro ⟨ranged, rfl⟩
      exact absurd ranged refused

/-- A read is accepted exactly if its number is an increment. -/
theorem isSome_accepted?_iff (bound : UInt64) (large : 2 ≤ bound)
    (bytes : Vector UInt8 (byteLength (bound - 1))) :
    (accepted? bound bytes).isSome ↔
      1 ≤ Bytes.toNat bytes.toList % 2 ^ bitLength (bound - 1) ∧
        Bytes.toNat bytes.toList % 2 ^ bitLength (bound - 1) < bound.toNat := by
  have number := toNat_candidate (bound - 1) (toNat_largest bound large).2 bytes
  rw [← number, accepted?]
  split
  · rename_i accepted
    rw [accepts, Bool.and_eq_true, decide_eq_true_iff, decide_eq_true_iff,
      UInt64.le_iff_toNat_le, UInt64.lt_iff_toNat_lt] at accepted
    exact iff_of_true rfl accepted
  · rename_i refused
    rw [accepts, Bool.and_eq_true, decide_eq_true_iff, decide_eq_true_iff,
      UInt64.le_iff_toNat_le, UInt64.lt_iff_toNat_lt] at refused
    exact iff_of_false Bool.false_ne_true refused

/-- Each increment is what equally many reads are accepted as. -/
theorem card_accepted (bound : UInt64) (large : 2 ≤ bound) (increment : UInt64)
    (ranged : 1 ≤ increment ∧ increment < bound) :
    Nat.card {bytes // accepted? bound bytes = some increment} =
      2 ^ (8 * byteLength (bound - 1) - bitLength (bound - 1)) := by
  have largest := toNat_largest bound large
  have highest := (bitLength_spec (bound - 1) largest.2).2
  have below := UInt64.lt_iff_toNat_lt.mp ranged.2
  rw [← Bytes.card_of_low_bits (byteLength (bound - 1)) (bitLength (bound - 1)) increment.toNat
    (byteLength_spec _ largest.2).2 (by omega)]
  apply Nat.card_congr
  apply Equiv.subtypeEquivRight
  intro bytes
  rw [accepted?_eq_some_iff bound large]
  exact and_iff_right ranged

/-- At least half of all reads are accepted. -/
theorem half_accepted (bound : UInt64) (large : 2 ≤ bound) :
    2 ^ (8 * byteLength (bound - 1)) ≤
      2 * Nat.card {bytes // (accepted? bound bytes).isSome} := by
  have largest := toNat_largest bound large
  have spec := bitLength_spec (bound - 1) largest.2
  have fits := (byteLength_spec _ largest.2).2
  have positive := (bitLength_bounds (bound - 1) largest.2).1
  have count : Nat.card {bytes // (accepted? bound bytes).isSome} =
      (bound.toNat - 1) * 2 ^ (8 * byteLength (bound - 1) - bitLength (bound - 1)) := by
    rw [← Bytes.card_of_low_bits_between (byteLength (bound - 1)) (bitLength (bound - 1)) 1
      bound.toNat fits (by omega)]
    apply Nat.card_congr
    apply Equiv.subtypeEquivRight
    intro bytes
    exact isSome_accepted?_iff bound large bytes
  have highest : 2 ^ (bitLength (bound - 1) - 1) ≤ bound.toNat - 1 := by omega
  rw [count]
  calc 2 ^ (8 * byteLength (bound - 1))
      = 2 * (2 ^ (bitLength (bound - 1) - 1) *
          2 ^ (8 * byteLength (bound - 1) - bitLength (bound - 1))) := by
        rw [← pow_add, ← pow_succ']
        congr 1
        omega
    _ ≤ 2 * ((bound.toNat - 1) *
          2 ^ (8 * byteLength (bound - 1) - bitLength (bound - 1))) :=
        Nat.mul_le_mul_left 2 (Nat.mul_le_mul_right _ highest)

/-- One more than each native answer below the largest increment is each increment, once. -/
theorem native_bijOn (bound : UInt64) (large : 2 ≤ bound) :
    Set.BijOn (1 + ·) {answer | answer < bound - 1}
      {increment | 1 ≤ increment ∧ increment < bound} := by
  have draws := exact_of_large bound large
  have largest := draws.largest.1
  refine ⟨?_, ?_, ?_⟩
  · intro answer small
    have sum := draws.sum answer small
    have below := UInt64.lt_iff_toNat_lt.mp small
    constructor
    · rw [UInt64.le_iff_toNat_le, sum, UInt64.toNat_one]
      exact Nat.le_add_right 1 _
    · rw [UInt64.lt_iff_toNat_lt, sum]
      omega
  · intro answer small other otherSmall same
    have numbers := congrArg UInt64.toNat same
    rw [draws.sum answer small, draws.sum other otherSmall] at numbers
    exact UInt64.toNat_inj.mp (Nat.add_left_cancel numbers)
  · rintro increment ⟨positive, below⟩
    have less : (increment - 1).toNat = increment.toNat - 1 :=
      UInt64.toNat_sub_of_le increment 1 positive
    rw [UInt64.le_iff_toNat_le, UInt64.toNat_one] at positive
    rw [UInt64.lt_iff_toNat_lt] at below
    have small : increment - 1 < bound - 1 := by
      rw [UInt64.lt_iff_toNat_lt]
      omega
    refine ⟨increment - 1, small, ?_⟩
    apply UInt64.toNat_inj.mp
    dsimp only
    rw [draws.sum _ small]
    omega

section Runs

variable {σ : Type} [ByteSource σ]

/-- A native answer is drawn as the increment that is one more. -/
theorem draw_of_answer (attempts : Nat) (bound answer : UInt64) (large : 2 ≤ bound)
    (source after : σ) (calm : ByteSource.belowCrash (bound - 1) source = none)
    (asked : ByteSource.below (bound - 1) source = (some answer, after)) :
    (draw attempts bound).run source = (.value (1 + answer), after) := by
  have above : ¬ bound ≤ 1 := by
    rw [UInt64.le_iff_toNat_le] at large ⊢
    exact Nat.not_le_of_lt large
  rw [draw, if_neg above, Draws.run, asked, calm]
  rfl

/-- Without a native answer an increment is searched for. -/
theorem draw_of_none (attempts : Nat) (bound : UInt64) (large : 2 ≤ bound)
    (source after : σ) (calm : ByteSource.belowCrash (bound - 1) source = none)
    (asked : ByteSource.below (bound - 1) source = (none, after)) :
    (draw attempts bound).run source = (search bound attempts).run after := by
  have above : ¬ bound ≤ 1 := by
    rw [UInt64.le_iff_toNat_le] at large ⊢
    exact Nat.not_le_of_lt large
  rw [draw, if_neg above, Draws.run, asked, calm]

/-- A search ends with what a read is accepted as. -/
theorem search_of_accepted (attempts : Nat) (bound increment : UInt64) (source after : σ)
    (bytes : Vector UInt8 (byteLength (bound - 1)))
    (filled : ByteSource.fill (byteLength (bound - 1)) source = (.value bytes, after))
    (accepted : accepted? bound bytes = some increment) :
    (search bound (attempts + 1)).run source = (.value increment, after) := by
  rw [search, Draws.run, filled]
  rw [accepted?] at accepted
  split at accepted
  · rename_i ranged
    obtain rfl := Option.some.inj accepted
    dsimp only
    rw [if_pos ranged, Draws.run]
  · cases accepted

/-- After a read that is not accepted a search goes on. -/
theorem search_of_refused (attempts : Nat) (bound : UInt64) (source after : σ)
    (bytes : Vector UInt8 (byteLength (bound - 1)))
    (filled : ByteSource.fill (byteLength (bound - 1)) source = (.value bytes, after))
    (refused : accepted? bound bytes = none) :
    (search bound (attempts + 1)).run source = (search bound attempts).run after := by
  rw [search, Draws.run, filled]
  rw [accepted?] at refused
  split at refused
  · cases refused
  · rename_i outside
    dsimp only
    rw [if_neg outside]

/-- For a bound above 1 nothing leaves the range of its type, and a read of a search is the number
of its bytes less the bits that the largest increment does not need. Each increment is what equally
many of all reads are accepted as, no read is accepted as anything else, and at least half of them
are accepted; the search ends with what a read is accepted as, and goes on after one that is not. A
native answer gives the increment that is one more, so that answers and increments are one to
one. -/
theorem increments_unbiased (bound : UInt64) (large : 2 ≤ bound) :
    Exact bound ∧
    let bits := bitLength (bound - 1)
    let size := byteLength (bound - 1)
    (2 ^ (bits - 1) ≤ (bound - 1).toNat ∧ (bound - 1).toNat < 2 ^ bits) ∧
    (8 * (size - 1) < bits ∧ bits ≤ 8 * size) ∧
    (∀ bytes : Vector UInt8 size, (candidate (leadingMask (bound - 1)) bytes.toList).toNat =
      Bytes.toNat bytes.toList % 2 ^ bits) ∧
    Nat.card (Vector UInt8 size) = 2 ^ (8 * size) ∧
    (∀ increment, 1 ≤ increment ∧ increment < bound →
      Nat.card {bytes // accepted? bound bytes = some increment} = 2 ^ (8 * size - bits)) ∧
    (∀ bytes increment, accepted? bound bytes = some increment →
      (1 ≤ increment ∧ increment < bound) ∧
        Bytes.toNat bytes.toList % 2 ^ bits = increment.toNat) ∧
    2 ^ (8 * size) ≤ 2 * Nat.card {bytes // (accepted? bound bytes).isSome} ∧
    Set.BijOn (1 + ·) {answer | answer < bound - 1}
      {increment | 1 ≤ increment ∧ increment < bound} ∧
    ∀ (attempts : Nat) (source after : σ),
      (ByteSource.belowCrash (bound - 1) source = none →
        (∀ answer, ByteSource.below (bound - 1) source = (some answer, after) →
          (draw attempts bound).run source = (.value (1 + answer), after)) ∧
        (ByteSource.below (bound - 1) source = (none, after) →
          (draw attempts bound).run source = (search bound attempts).run after)) ∧
      ∀ bytes, ByteSource.fill size source = (.value bytes, after) →
        (∀ increment, accepted? bound bytes = some increment →
          (search bound (attempts + 1)).run source = (.value increment, after)) ∧
        (accepted? bound bytes = none →
          (search bound (attempts + 1)).run source = (search bound attempts).run after) := by
  refine ⟨exact_of_large bound large, ?_⟩
  intro bits size
  have largest := (toNat_largest bound large).2
  refine ⟨bitLength_spec _ largest, byteLength_spec _ largest, toNat_candidate _ largest,
    Bytes.card_vector size, card_accepted bound large, ?_, half_accepted bound large,
    native_bijOn bound large, ?_⟩
  · intro bytes increment accepted
    exact (accepted?_eq_some_iff bound large bytes increment).mp accepted
  · intro attempts source after
    refine ⟨fun calm => ⟨fun answer asked => ?_, fun asked => ?_⟩, fun bytes filled => ⟨?_, ?_⟩⟩
    · exact draw_of_answer attempts bound answer large source after calm asked
    · exact draw_of_none attempts bound large source after calm asked
    · intro increment accepted
      exact search_of_accepted attempts bound increment source after bytes filled accepted
    · exact search_of_refused attempts bound source after bytes filled

/-- Increments below 300 have nine bits, so a read has two bytes and only the last bit of the first
counts: each increment is what 128 of the 65536 reads are accepted as, and a source of bytes 0x81
draws none. -/
theorem increments_unbiased_below_300 :
    Nat.card (Vector UInt8 (byteLength (300 - 1))) = 65536 ∧
    Nat.card {bytes // accepted? 300 bytes = some 299} = 128 ∧
    32768 ≤ Nat.card {bytes // (accepted? 300 bytes).isSome} ∧
    (search 300 1).run (Repeated.mk 0x81) = (search 300 0).run (Repeated.mk 0x81) := by
  have bits : bitLength (300 - 1) = 9 := by decide +kernel
  have size : byteLength (300 - 1) = 2 := by decide +kernel
  have all : 2 ^ (8 * byteLength (300 - 1)) = 65536 := by rw [size]; rfl
  have share : 2 ^ (8 * byteLength (300 - 1) - bitLength (300 - 1)) = 128 := by rw [size, bits]; rfl
  obtain ⟨-, -, -, -, total, each, -, half, -, runs⟩ :=
    @increments_unbiased Repeated _ 300 (by decide)
  rw [all] at total half
  refine ⟨total, (each 299 (by decide)).trans share, by omega, ?_⟩
  exact ((runs 0 (Repeated.mk 0x81) (Repeated.mk 0x81)).2 _ rfl).2 (by decide +kernel)

end Runs

end Increment

end SortableId
