import Mathlib
import SortableId.Proofs.Fields

/-!
# Laws of the two fields

Each field of an identifier is read and replaced by itself: a replacement that fits shows up in the
field and leaves the other one as it was, the last of two replacements counts, and a field's own
value replaced changes nothing. As an identifier is its two fields, replacements of different fields
commute, and both together are the assembly from parts.
-/

namespace SortableId.Ulid

variable {α β : Type}

/-- A field next to the rest of an identifier: how it is read, replaced, and refused. -/
structure LawfulField (read : Ulid → α) (rest : Ulid → β) (write : Ulid → α → Except Error Ulid)
    (fits : α → Prop) (refusal : α → Error) : Prop where
  /-- A value that fits is taken, and only the field changes. -/
  taken : ∀ id value, fits value →
    ∃ written, write id value = .ok written ∧ read written = value ∧ rest written = rest id
  /-- Any other value is refused. -/
  refused : ∀ id value, ¬ fits value → write id value = .error (refusal value)
  /-- The last of two replacements counts. -/
  last : ∀ id first second, fits first →
    (write id first).bind (write · second) = write id second
  /-- The value that the field has changes nothing. -/
  kept : ∀ id, write id (read id) = .ok id

/-- A field is lawful when a replacement succeeds with the one identifier that has the new value
and the same rest, and fails for the values that do not fit. -/
theorem LawfulField.of_writes {read : Ulid → α} {rest : Ulid → β}
    {write : Ulid → α → Except Error Ulid} {fits : α → Prop} {refusal : α → Error}
    (writes : ∀ id written value,
      write id value = .ok written ↔ read written = value ∧ rest written = rest id)
    (takes : ∀ id value, fits value → ∃ written, write id value = .ok written)
    (refused : ∀ id value, ¬ fits value → write id value = .error (refusal value)) :
    LawfulField read rest write fits refusal where
  taken id value fit := by
    obtain ⟨written, taken⟩ := takes id value fit
    exact ⟨written, taken, (writes id written value).mp taken⟩
  refused := refused
  last id first second fit := by
    obtain ⟨middle, taken⟩ := takes id first fit
    have same := ((writes id middle first).mp taken).2
    rw [taken, Except.bind]
    by_cases fitsToo : fits second
    · obtain ⟨written, again⟩ := takes middle second fitsToo
      have parts := (writes middle written second).mp again
      rw [same] at parts
      rw [again, (writes id written second).mpr parts]
    · rw [refused middle second fitsToo, refused id second fitsToo]
  kept id := (writes id id (read id)).mpr ⟨rfl, rfl⟩

/-- Replacements of two fields that make up the identifier commute, unless both are refused. -/
theorem LawfulField.commute {left : Ulid → α} {right : Ulid → β}
    {writeLeft : Ulid → α → Except Error Ulid} {writeRight : Ulid → β → Except Error Ulid}
    {fitsLeft : α → Prop} {fitsRight : β → Prop} {refusalLeft : α → Error}
    {refusalRight : β → Error}
    (determined : ∀ id other : Ulid, left id = left other → right id = right other → id = other)
    (lawfulLeft : LawfulField left right writeLeft fitsLeft refusalLeft)
    (lawfulRight : LawfulField right left writeRight fitsRight refusalRight)
    (id : Ulid) (first : α) (second : β) (fits : fitsLeft first ∨ fitsRight second) :
    (writeLeft id first).bind (writeRight · second) =
      (writeRight id second).bind (writeLeft · first) := by
  by_cases fitsFirst : fitsLeft first
  · obtain ⟨early, takenEarly, earlyLeft, earlyRight⟩ := lawfulLeft.taken id first fitsFirst
    by_cases fitsSecond : fitsRight second
    -- Both are taken in either order, and the two ways end with the same values in both fields.
    · obtain ⟨late, takenLate, lateRight, lateLeft⟩ := lawfulRight.taken id second fitsSecond
      obtain ⟨both, takenBoth, bothRight, bothLeft⟩ := lawfulRight.taken early second fitsSecond
      obtain ⟨other, takenOther, otherLeft, otherRight⟩ := lawfulLeft.taken late first fitsFirst
      have same : both = other := determined both other
        (by rw [bothLeft, earlyLeft, otherLeft]) (by rw [bothRight, otherRight, lateRight])
      rw [takenEarly, takenLate, Except.bind, Except.bind, takenBoth, takenOther, same]
    · rw [takenEarly, lawfulRight.refused id second fitsSecond, Except.bind, Except.bind,
        lawfulRight.refused early second fitsSecond]
  · have fitsSecond := fits.resolve_left fitsFirst
    obtain ⟨late, takenLate, -, -⟩ := lawfulRight.taken id second fitsSecond
    rw [lawfulLeft.refused id first fitsFirst, takenLate, Except.bind, Except.bind,
      lawfulLeft.refused late first fitsFirst]

/-- Bytes replace the entropy and nothing else, and are refused when they are not ten. -/
theorem withEntropy_eq_ok_iff (id filled : Ulid) (bytes : List UInt8) :
    id.withEntropy bytes = .ok filled ↔
      filled.entropy.toList = bytes ∧ filled.timestamp = id.timestamp := by
  rw [withEntropy]
  cases taken : Bytes.sized? 10 bytes with
  | none =>
    have length := Bytes.sized?_eq_none_iff.mp taken
    simp only [reduceCtorEq, false_iff]
    rintro ⟨rfl, -⟩
    exact length Vector.length_toList
  | some ten =>
    have same := Bytes.sized?_eq_some_iff.mp taken
    rw [Except.ok.injEq, withEntropyBytes_eq_iff, ← same, Vector.toList_inj, and_comm, eq_comm]

/-- The timestamp is a lawful field of 48 bits. -/
theorem lawful_timestamp :
    LawfulField timestamp (·.entropy.toList) withTime (·.toNat ≤ 2 ^ 48 - 1) .bigTime := by
  apply LawfulField.of_writes
  · intro id written ms
    rw [withTime_eq_ok_iff, Vector.toList_inj]
  · intro id ms small
    exact exists_withTime id ms ((le_maxTime_iff ms).mpr small)
  · intro id ms large
    rw [← le_maxTime_iff, UInt64.not_le] at large
    rw [withTime, if_pos large]

/-- The entropy is a lawful field of ten bytes. -/
theorem lawful_entropy :
    LawfulField (·.entropy.toList) timestamp withEntropy (·.length = 10)
      (fun bytes => .dataSize 10 bytes.length) := by
  apply LawfulField.of_writes
  · intro id written bytes
    exact withEntropy_eq_ok_iff id written bytes
  · intro id bytes ten
    rw [withEntropy, Bytes.sized?, dif_pos ten]
    exact ⟨_, rfl⟩
  · intro id bytes other
    rw [withEntropy, Bytes.sized?_eq_none_iff.mpr other]
    rfl

/-- The two fields of an identifier put into another one make it the same. -/
theorem replace_fields (id made : Ulid) :
    (id.withTime made.timestamp).bind (·.withEntropy made.entropy.toList) = .ok made := by
  have bound := timestamp_lt made
  obtain ⟨dated, taken, time, -⟩ := lawful_timestamp.taken id made.timestamp (by omega)
  rw [taken, Except.bind]
  exact (withEntropy_eq_ok_iff dated made _).mpr ⟨rfl, time.symm⟩

/-- The two fields of an identifier are independent and make it up. Both are lawful, their
replacements commute unless both are refused, the number of the identifier is the timestamp in front
of the entropy value, and assembly gives back an identifier from its fields. A time of 48 bits and
ten bytes are assembled into the identifier that has both, which is also what replacing the two
fields of any identifier gives. -/
theorem fields_independent :
    LawfulField timestamp (·.entropy.toList) withTime (·.toNat ≤ 2 ^ 48 - 1) .bigTime ∧
    LawfulField (·.entropy.toList) timestamp withEntropy (·.length = 10)
      (fun bytes => .dataSize 10 bytes.length) ∧
    (∀ (id : Ulid) (ms : UInt64) (bytes : List UInt8),
      ms.toNat ≤ 2 ^ 48 - 1 ∨ bytes.length = 10 →
      (id.withTime ms).bind (·.withEntropy bytes) =
        (id.withEntropy bytes).bind (·.withTime ms)) ∧
    (∀ id : Ulid,
      id.toNat = id.timestamp.toNat * 2 ^ 80 + id.entropyValue.toNat ∧
      ofParts id.timestamp id.entropyValue = .ok id) ∧
    ∀ (ms : UInt64) (bytes : Vector UInt8 10), ms.toNat ≤ 2 ^ 48 - 1 →
      ∃ made, ofParts ms (UInt80.ofBytes bytes) = .ok made ∧
        made.timestamp = ms ∧ made.entropy = bytes ∧
        ∀ id : Ulid, (id.withTime ms).bind (·.withEntropy bytes.toList) = .ok made := by
  have determined (id other : Ulid) (times : id.timestamp = other.timestamp)
      (bytes : id.entropy.toList = other.entropy.toList) : id = other :=
    eq_of_entropy id other times (Vector.toList_inj.mp bytes)
  refine ⟨lawful_timestamp, lawful_entropy,
    lawful_timestamp.commute determined lawful_entropy, fun id => ⟨toNat_fields id, ?_⟩, ?_⟩
  · exact (ofParts_eq_ok_iff _ _ id).mpr ⟨rfl, rfl⟩
  · intro ms bytes small
    obtain ⟨made, assembled⟩ :=
      exists_ofParts ms (UInt80.ofBytes bytes) ((le_maxTime_iff ms).mpr small)
    obtain ⟨rfl, value⟩ := (ofParts_eq_ok_iff _ _ made).mp assembled
    have entropy : made.entropy = bytes := by
      rw [← (toBytes_eq_entropy_iff made _).mpr value, UInt80.toBytes_ofBytes]
    refine ⟨made, assembled, rfl, entropy, fun id => ?_⟩
    rw [← entropy]
    exact replace_fields id made

end SortableId.Ulid
