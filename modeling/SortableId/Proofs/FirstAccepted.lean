import Mathlib
import SortableId.Source.Wrapped
import SortableId.Proofs.Unbiased

/-!
# The first read that ends a search

A search for an increment asks for reads of one size only. It goes on after a read whose number is
no increment, and the first read that is accepted or fails ends it, after exactly the reads up to
that one; while there is none it is unfinished, whatever number of attempts it has. A search that
writes every read over the end of one buffer of a word is the same search: the bytes in front of the
reads stay zero, so that nothing of a refused read is left in a later number.
-/

namespace SortableId

namespace ByteSource

variable {σ : Type} [ByteSource σ]

/-- The source after some reads of a size, whatever they came to. -/
def afterReads (size reads : Nat) (source : σ) : σ :=
  (fun source => (fill size source).2)^[reads] source

/-- How the read after some others of the same size ends. -/
def readAfter (size earlier : Nat) (source : σ) : Outcome (Vector UInt8 size) :=
  (fill size (afterReads size earlier source)).1

/-- The last of some reads leaves the source. -/
theorem afterReads_succ (size reads : Nat) (source : σ) :
    afterReads size (reads + 1) source = (fill size (afterReads size reads source)).2 :=
  Function.iterate_succ_apply' _ reads source

/-- A recorded source answers a bounded request as the source inside, and has an entry for it. -/
theorem below_recorded (bound : UInt64) (source : σ) (requests : List Request) :
    below bound (Recorded.mk source requests) =
      ((below bound source).1, ⟨(below bound source).2, .below bound :: requests⟩) := rfl

/-- A record has an entry for each of the reads. -/
theorem afterReads_recorded (size reads : Nat) (source : σ) (requests : List Request) :
    afterReads size reads (Recorded.mk source requests) =
      ⟨afterReads size reads source, List.replicate reads (.fill size) ++ requests⟩ := by
  induction reads with
  | zero => rfl
  | succ reads ih =>
    rw [afterReads_succ, afterReads_succ, ih]
    rfl

/-- A recorded source answers as the source inside. -/
theorem readAfter_recorded (size earlier : Nat) (source : σ) (requests : List Request) :
    readAfter size earlier (Recorded.mk source requests) = readAfter size earlier source := by
  rw [readAfter, afterReads_recorded]
  rfl

end ByteSource

namespace Increment

open ByteSource

/-- A number needs as many bits as it has binary digits. -/
theorem bitLength_eq_size (n : UInt64) (nonzero : n ≠ 0) : bitLength n = Nat.size n.toNat := by
  have spec := bitLength_spec n nonzero
  have positive := (bitLength_bounds n nonzero).1
  apply Nat.le_antisymm
  · have highest : bitLength n - 1 < Nat.size n.toNat := Nat.lt_size.mpr spec.1
    omega
  · exact Nat.size_le.mpr spec.2

/-- It needs as many bytes as its bits fill, the last one perhaps in part. -/
theorem byteLength_eq_ceilDiv (n : UInt64) : byteLength n = bitLength n ⌈/⌉ 8 := rfl

/-- A buffer with a read over its end, less the excess bits of the first byte of the read. -/
def overwrite (mask : UInt8) (read buffer : List UInt8) : List UInt8 :=
  buffer.take (buffer.length - read.length) ++ read.modifyHead (· &&& mask)

/-- Reads candidates over the end of one buffer until the number of the whole buffer is accepted. -/
def searchInPlace (bound : UInt64) : Nat → List UInt8 → Draws UInt64
  | 0, _ => .done .unfinished
  | attempts + 1, buffer => .read (byteLength (bound - 1)) fun bytes =>
    let buffer := overwrite (leadingMask (bound - 1)) bytes.toList buffer
    let found := UInt64.ofNat (Bytes.toNat buffer)
    if accepts bound found then .done (.value found) else searchInPlace bound attempts buffer

/-- A buffer of a word with zeros in front of reads of a size. -/
structure Clear (size : Nat) (buffer : List UInt8) : Prop where
  /-- It has the bytes of a word. -/
  length : buffer.length = 8
  /-- Those that no read covers are zero. -/
  front : buffer.take (8 - size) = List.replicate (8 - size) 0

/-- A buffer of zeros is clear. -/
theorem clear_zeros (size : Nat) : Clear size (List.replicate 8 0) where
  length := List.length_replicate
  front := by
    rw [List.take_replicate, Nat.min_eq_left (Nat.sub_le 8 size)]

/-- Zeros denote zero. -/
theorem toNat_zeros (count : Nat) : Bytes.toNat (List.replicate count 0) = 0 := by
  induction count with
  | zero => rfl
  | succ count ih => rw [List.replicate_succ, Bytes.toNat_cons, ih, UInt8.toNat_zero, Nat.zero_mul]

/-- A clear buffer after a read is zeros and the read. -/
theorem Clear.overwrite_eq {size : Nat} {buffer : List UInt8} (clear : Clear size buffer)
    (mask : UInt8) (read : List UInt8) (length : read.length = size) :
    overwrite mask read buffer =
      List.replicate (8 - size) 0 ++ read.modifyHead (· &&& mask) := by
  rw [overwrite, clear.length, length, clear.front]

/-- A read leaves a clear buffer clear. -/
theorem Clear.stays {size : Nat} {buffer : List UInt8} (clear : Clear size buffer)
    (fits : size ≤ 8) (mask : UInt8) (read : List UInt8) (length : read.length = size) :
    Clear size (overwrite mask read buffer) := by
  rw [clear.overwrite_eq mask read length]
  constructor
  · rw [List.length_append, List.length_replicate, List.length_modifyHead, length,
      Nat.sub_add_cancel fits]
  · exact List.take_left' List.length_replicate

/-- The number of a clear buffer after a read is that of the read alone. -/
theorem Clear.number {size : Nat} {buffer : List UInt8} (clear : Clear size buffer)
    (mask : UInt8) (read : List UInt8) (length : read.length = size) :
    UInt64.ofNat (Bytes.toNat (overwrite mask read buffer)) = candidate mask read := by
  rw [clear.overwrite_eq mask read length, Bytes.toNat_append, toNat_zeros, Nat.zero_mul,
    Nat.zero_add]
  cases read <;> rfl

/-- Over a clear buffer a search is that of reads by themselves. -/
theorem searchInPlace_eq (bound : UInt64) (large : 2 ≤ bound) (attempts : Nat)
    (buffer : List UInt8) (clear : Clear (byteLength (bound - 1)) buffer) :
    searchInPlace bound attempts buffer = search bound attempts := by
  have fits := (byteLength_bounds (bound - 1) (toNat_largest bound large).2).2
  -- On the attempts: a read that is refused leaves a clear buffer to the next one.
  induction attempts generalizing buffer with
  | zero => rfl
  | succ attempts ih =>
    rw [searchInPlace, search]
    congr 1
    funext bytes
    have length : bytes.toList.length = byteLength (bound - 1) := Vector.length_toList
    dsimp only
    rw [clear.number _ _ length, ih _ (clear.stays fits _ _ length)]

/-- How a read ends a search: accepted as an increment, or as it failed. A read that brings bytes
for no increment does not end it. -/
def verdict (bound : UInt64) :
    Outcome (Vector UInt8 (byteLength (bound - 1))) → Option (Outcome UInt64)
  | .value bytes => (accepted? bound bytes).map .value
  | .error cause => some (.error cause)
  | .crash text => some (.crash text)
  | .unfinished => some .unfinished

/-- Bytes are accepted as the number of their bits, if that is an increment. -/
theorem verdict_eq_value_iff (bound : UInt64) (large : 2 ≤ bound)
    (bytes : Vector UInt8 (byteLength (bound - 1))) (increment : UInt64) :
    verdict bound (.value bytes) = some (.value increment) ↔
      (1 ≤ increment ∧ increment < bound) ∧
        Bytes.toNat bytes.toList % 2 ^ bitLength (bound - 1) = increment.toNat := by
  rw [← accepted?_eq_some_iff bound large, verdict, Option.map_eq_some_iff]
  constructor
  · rintro ⟨number, accepted, same⟩
    rwa [← Outcome.value.inj same]
  · exact fun accepted => ⟨increment, accepted, rfl⟩

/-- Bytes are refused exactly if their number is no increment. -/
theorem verdict_eq_none_iff (bound : UInt64) (large : 2 ≤ bound)
    (bytes : Vector UInt8 (byteLength (bound - 1))) :
    verdict bound (.value bytes) = none ↔
      ¬ (1 ≤ Bytes.toNat bytes.toList % 2 ^ bitLength (bound - 1) ∧
        Bytes.toNat bytes.toList % 2 ^ bitLength (bound - 1) < bound.toNat) := by
  rw [← isSome_accepted?_iff bound large, verdict, Option.map_eq_none_iff,
    Option.not_isSome_iff_eq_none]

section Reads

variable {σ : Type} [ByteSource σ]

/-- A search with an attempt left reads once, and ends or goes on from the source that is left. -/
theorem search_succ_run (bound : UInt64) (attempts : Nat) (source : σ) :
    (search bound (attempts + 1)).run source =
      let read := fill (byteLength (bound - 1)) source
      (verdict bound read.1).elim ((search bound attempts).run read.2) fun ending =>
        (ending, read.2) := by
  generalize filled : fill (byteLength (bound - 1)) source = read
  obtain ⟨outcome, after⟩ := read
  cases outcome with
  | value bytes =>
    dsimp only
    rw [verdict]
    cases accepted : accepted? bound bytes with
    | some increment =>
      exact search_of_accepted attempts bound increment source after bytes filled accepted
    | none => exact search_of_refused attempts bound source after bytes filled accepted
  | error cause =>
    rw [search, Draws.run, filled]
    rfl
  | crash text =>
    rw [search, Draws.run, filled]
    rfl
  | unfinished =>
    rw [search, Draws.run, filled]
    rfl

/-- How the read of a source after some others ends a search, if it does. -/
def verdictAfter (bound : UInt64) (earlier : Nat) (source : σ) : Option (Outcome UInt64) :=
  verdict bound (readAfter (byteLength (bound - 1)) earlier source)

/-- The first reads of a source are all refused. -/
def Refused (bound : UInt64) (reads : Nat) (source : σ) : Prop :=
  ∀ earlier < reads, verdictAfter bound earlier source = none

/-- The first verdict on the reads of a source is that on the read after some others. -/
structure FirstVerdict (bound : UInt64) (earlier : Nat) (source : σ) (ending : Outcome UInt64) :
    Prop where
  /-- The others are refused. -/
  refused : Refused bound earlier source
  /-- This one ends a search. -/
  ends : verdictAfter bound earlier source = some ending

/-- After refused reads a search goes on with the attempts that are left. -/
theorem search_of_refused_reads (bound : UInt64) (reads attempts : Nat) (source : σ)
    (refused : Refused bound reads source) :
    (search bound (reads + attempts)).run source =
      (search bound attempts).run (afterReads (byteLength (bound - 1)) reads source) := by
  -- On the reads: those after the first one are the reads of the source that it leaves.
  induction reads generalizing source with
  | zero =>
    rw [Nat.zero_add]
    rfl
  | succ reads ih =>
    have first : verdict bound (fill (byteLength (bound - 1)) source).1 = none :=
      refused 0 (Nat.succ_pos reads)
    have rest : Refused bound reads (fill (byteLength (bound - 1)) source).2 :=
      fun earlier inside => refused (earlier + 1) (Nat.succ_lt_succ inside)
    rw [Nat.succ_add_eq_add_succ, Nat.add_succ, search_succ_run]
    dsimp only
    rw [first, Option.elim_none, ih _ rest]
    rfl

/-- A search whose reads are all refused uses its attempts up. -/
theorem search_of_refusals (bound : UInt64) (attempts : Nat) (source : σ)
    (refused : Refused bound attempts source) :
    (search bound attempts).run source =
      (.unfinished, afterReads (byteLength (bound - 1)) attempts source) :=
  search_of_refused_reads bound attempts 0 source refused

/-- The first read with a verdict ends a search that has an attempt for it. -/
theorem search_of_first (bound : UInt64) (earlier attempts : Nat) (source : σ)
    (ending : Outcome UInt64) (first : FirstVerdict bound earlier source ending)
    (enough : earlier < attempts) :
    (search bound attempts).run source =
      (ending, afterReads (byteLength (bound - 1)) (earlier + 1) source) := by
  obtain ⟨left, rfl⟩ := Nat.exists_eq_add_of_lt enough
  have ends := first.ends
  rw [verdictAfter, readAfter] at ends
  rw [Nat.add_assoc, search_of_refused_reads bound earlier (left + 1) source first.refused,
    search_succ_run, afterReads_succ]
  dsimp only
  rw [ends, Option.elim_some]

/-- Either all of some reads are refused, or one of them is the first that is not. -/
theorem refused_or_first (bound : UInt64) (reads : Nat) (source : σ) :
    Refused bound reads source ∨
      ∃ earlier < reads, ∃ ending, FirstVerdict bound earlier source ending := by
  -- On the reads: the verdict on the last one decides only if the reads before it are refused.
  induction reads with
  | zero => exact .inl fun earlier inside => absurd inside (Nat.not_lt_zero earlier)
  | succ reads ih =>
    obtain refused | ⟨earlier, inside, first⟩ := ih
    · cases last : verdictAfter bound reads source with
      | some ending => exact .inr ⟨reads, Nat.lt_succ_self reads, ending, refused, last⟩
      | none =>
        refine .inl fun earlier inside => ?_
        obtain before | rfl := Nat.lt_succ_iff_lt_or_eq.mp inside
        · exact refused earlier before
        · exact last
    · exact .inr ⟨earlier, Nat.lt_succ_of_lt inside, first⟩

/-- A record does not change the verdict on a read. -/
theorem verdictAfter_recorded (bound : UInt64) (earlier : Nat) (source : σ)
    (requests : List Request) :
    verdictAfter bound earlier (Recorded.mk source requests) =
      verdictAfter bound earlier source := by
  rw [verdictAfter, readAfter_recorded, verdictAfter]

/-- Nor does it change what is refused. -/
theorem Refused.recorded {bound : UInt64} {reads : Nat} {source : σ}
    (refused : Refused bound reads source) (requests : List Request) :
    Refused bound reads (Recorded.mk source requests) := by
  intro earlier inside
  rw [verdictAfter_recorded]
  exact refused earlier inside

/-- Nor the first verdict. -/
theorem FirstVerdict.recorded {bound : UInt64} {earlier : Nat} {source : σ}
    {ending : Outcome UInt64} (first : FirstVerdict bound earlier source ending)
    (requests : List Request) : FirstVerdict bound earlier (Recorded.mk source requests) ending :=
  ⟨first.refused.recorded requests,
    (verdictAfter_recorded bound earlier source requests).trans first.ends⟩

/-- A draw that makes some reads after its bounded request. -/
structure Makes (bound : UInt64) (source after : σ) (attempts reads : Nat)
    (ending : Outcome UInt64) : Prop where
  /-- It ends so and leaves the source after these reads. -/
  run : (draw attempts bound).run source =
    (ending, afterReads (byteLength (bound - 1)) reads after)
  /-- Its requests are the bounded one and then these reads; a record has the latest first. -/
  requests : ∀ log, (draw attempts bound).run (Recorded.mk source log) =
    (ending, ⟨afterReads (byteLength (bound - 1)) reads after,
      List.replicate reads (.fill (byteLength (bound - 1))) ++ .below (bound - 1) :: log⟩)

section Unanswered

variable {bound : UInt64} (large : 2 ≤ bound) {source after : σ}
  (calm : ByteSource.belowCrash (bound - 1) source = none)
  (asked : ByteSource.below (bound - 1) source = (none, after))

include large calm asked

/-- A draw makes the reads that its search makes on the source with and without a record. -/
theorem makes_of_search {attempts reads : Nat} {ending : Outcome UInt64}
    (bare : (search bound attempts).run after =
      (ending, afterReads (byteLength (bound - 1)) reads after))
    (recorded : ∀ log, (search bound attempts).run (Recorded.mk after log) =
      (ending, afterReads (byteLength (bound - 1)) reads (Recorded.mk after log))) :
    Makes bound source after attempts reads ending where
  run := (draw_of_none attempts bound large source after calm asked).trans bare
  requests log := by
    have same : ByteSource.below (bound - 1) (Recorded.mk source log) =
        (none, ⟨after, .below (bound - 1) :: log⟩) := by
      rw [below_recorded, asked]
    rw [draw_of_none attempts bound large (Recorded.mk source log) _ calm same, recorded,
      afterReads_recorded]

/-- A draw makes the reads up to the first verdict and ends with it. -/
theorem makes_of_first (earlier attempts : Nat) (ending : Outcome UInt64)
    (first : FirstVerdict bound earlier after ending) (enough : earlier < attempts) :
    Makes bound source after attempts (earlier + 1) ending := by
  apply makes_of_search large calm asked
  · exact search_of_first bound earlier attempts after ending first enough
  · intro log
    exact search_of_first bound earlier attempts _ ending (first.recorded log) enough

/-- A draw whose reads are all refused makes as many as it has attempts. -/
theorem makes_of_refusals (attempts : Nat) (refused : Refused bound attempts after) :
    Makes bound source after attempts attempts .unfinished := by
  apply makes_of_search large calm asked
  · exact search_of_refusals bound attempts after refused
  · intro log
    exact search_of_refusals bound attempts _ (refused.recorded log)

/-- With enough attempts a draw ends with the first verdict on the reads, and with nothing else. -/
theorem draw_ends_iff (ending : Outcome UInt64) (finished : ending ≠ .unfinished) :
    (∃ attempts, ((draw attempts bound).run source).1 = ending) ↔
      ∃ earlier, FirstVerdict bound earlier after ending := by
  constructor
  · rintro ⟨attempts, ended⟩
    obtain refused | ⟨earlier, inside, found, first⟩ := refused_or_first bound attempts after
    · rw [(makes_of_refusals large calm asked attempts refused).run] at ended
      exact absurd ended.symm finished
    · rw [(makes_of_first large calm asked earlier attempts found first inside).run] at ended
      obtain rfl : found = ending := ended
      exact ⟨earlier, first⟩
  · rintro ⟨earlier, first⟩
    refine ⟨earlier + 1, ?_⟩
    rw [(makes_of_first large calm asked earlier _ ending first (Nat.lt_succ_self earlier)).run]

end Unanswered

/-- What a draw of an increment comes to on a source that does not answer its bounded request. -/
structure EndsAtFirst (bound : UInt64) (source after : σ) : Prop where
  /-- The bits are those of the largest increment. -/
  bits : bitLength (bound - 1) = Nat.size (bound.toNat - 1)
  /-- Every read has as many bytes as these bits fill, the last one perhaps in part. -/
  bytes : byteLength (bound - 1) = Nat.size (bound.toNat - 1) ⌈/⌉ 8
  /-- Bytes end the search as the number of their last bits, if that is an increment. -/
  accepted : ∀ bytes increment, verdict bound (.value bytes) = some (.value increment) ↔
    (1 ≤ increment ∧ increment < bound) ∧
      Bytes.toNat bytes.toList % 2 ^ bitLength (bound - 1) = increment.toNat
  /-- If it is none, they do not end it. -/
  refused : ∀ bytes, verdict bound (.value bytes) = none ↔
    ¬ (1 ≤ Bytes.toNat bytes.toList % 2 ^ bitLength (bound - 1) ∧
      Bytes.toNat bytes.toList % 2 ^ bitLength (bound - 1) < bound.toNat)
  /-- An error or a crash ends it as itself. -/
  failed : (∀ cause, verdict bound (.error cause) = some (.error cause)) ∧
    ∀ text, verdict bound (.crash text) = some (.crash text)
  /-- The first read with a verdict is the last one that is made, and the draw ends with this
  verdict. -/
  first : ∀ earlier ending, FirstVerdict bound earlier after ending →
    ∀ attempts > earlier, Makes bound source after attempts (earlier + 1) ending
  /-- While all reads are refused the draw is unfinished; if no read has a verdict, it is so with
  any number of attempts. -/
  limit : ∀ attempts, Refused bound attempts after →
    Makes bound source after attempts attempts .unfinished
  /-- With enough attempts it ends with the first verdict, and in no other way. -/
  ends : ∀ ending, ending ≠ .unfinished →
    ((∃ attempts, ((draw attempts bound).run source).1 = ending) ↔
      ∃ earlier, FirstVerdict bound earlier after ending)
  /-- The same search is made over one buffer, which is zero at first and clear between reads,
  whatever the refused reads have left at its end. -/
  inPlace : Clear (byteLength (bound - 1)) (List.replicate 8 0) ∧
    ∀ attempts buffer, Clear (byteLength (bound - 1)) buffer →
      searchInPlace bound attempts buffer = search bound attempts

/-- On a source without a native bounded number, whatever it answers to reads, a draw of an
increment reads only as many bytes at a time as the largest increment needs. It ends with the first
read that fails or whose number is an increment: as that read alone says, after exactly the reads up
to it. Without such a read it does not end. -/
theorem ends_at_first_verdict (bound : UInt64) (large : 2 ≤ bound) (source after : σ)
    (calm : ByteSource.belowCrash (bound - 1) source = none)
    (asked : ByteSource.below (bound - 1) source = (none, after)) :
    EndsAtFirst bound source after := by
  have largest := toNat_largest bound large
  have less : (bound - 1).toNat = bound.toNat - 1 := by omega
  have bits : bitLength (bound - 1) = Nat.size (bound.toNat - 1) := by
    rw [bitLength_eq_size _ largest.2, less]
  constructor
  case bits => exact bits
  case bytes => rw [byteLength_eq_ceilDiv, bits]
  case accepted => exact verdict_eq_value_iff bound large
  case refused => exact verdict_eq_none_iff bound large
  case failed => exact ⟨fun cause => rfl, fun text => rfl⟩
  case first =>
    intro earlier ending first attempts enough
    exact makes_of_first large calm asked earlier attempts ending first enough
  case limit => exact makes_of_refusals large calm asked
  case ends => exact draw_ends_iff large calm asked
  case inPlace => exact ⟨clear_zeros _, searchInPlace_eq bound large⟩

/-- Increments up to 65536 have seventeen bits, so a read has three bytes and only the last bit of
the first counts: of FF FF FF that leaves 131071, which is refused, and of FE 01 00 it leaves 256,
which ends a draw with nine attempts after two reads. -/
theorem ends_at_first_verdict_of_seventeen_bits :
    let next : Script := ⟨[.bytes [0x05]], []⟩
    let source : Script :=
      ⟨.bytes [0xFF, 0xFF, 0xFF] :: .bytes [0xFE, 0x01, 0x00] :: next.draws, []⟩
    (2 : UInt64) ≤ 0x10001 ∧ ByteSource.belowCrash (0x10001 - 1) source = none ∧
    ByteSource.below (0x10001 - 1) source = (none, source) ∧
    EndsAtFirst 0x10001 source source ∧
    (draw 9 0x10001).run (Recorded.mk source []) =
      (.value 256, ⟨next, [.fill 3, .fill 3, .below 0x10000]⟩) := by
  intro next source
  have draws := ends_at_first_verdict 0x10001 (by decide) source source rfl rfl
  have first : FirstVerdict 0x10001 1 source (.value 256) := by
    refine ⟨fun earlier inside => ?_, by decide +kernel⟩
    obtain rfl := Nat.lt_one_iff.mp inside
    decide +kernel
  have made := draws.first 1 (.value 256) first 9 (by decide)
  refine ⟨by decide, rfl, rfl, draws, ?_⟩
  rw [made.requests []]
  decide +kernel

end Reads

end Increment

end SortableId
