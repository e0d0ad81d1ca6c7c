import Mathlib
import SortableId.Record.Visit
import SortableId.Proofs.TextBytes

/-!
# Forms of an identifier in self-describing values

An identifier can come as a list of integers, as bytes or as text. The three agree: a list is
accepted when it is the sixteen bytes, and the text in any mix of cases. A list is read item by item
from the left, so its first problem is the one reported, and what comes behind that or behind a
seventeenth item is never taken. Bytes and texts are refused for the causes that the library has for
them.
-/

namespace SortableId.Held

/-- An item of a list is a byte. -/
def IsByte (item : Int) : Prop := 0 ≤ item ∧ item ≤ 255

instance : DecidablePred IsByte := fun item => inferInstanceAs (Decidable (0 ≤ item ∧ item ≤ 255))

/-- Bytes as items of a list. -/
def ofBytes (bytes : List UInt8) : List Int := bytes.map fun byte => (byte.toNat : Int)

/-- An item made of a byte is taken as it. -/
theorem toByte_ofNat (byte : UInt8) : toByte (byte.toNat : Int) = .ok byte := by
  have range := byte.toNat_lt
  rw [toByte, if_pos (by omega), Int.toNat_natCast, UInt8.ofNat_toNat]

/-- An item that is no byte is refused. -/
theorem toByte_of_not_isByte (item : Int) (bad : ¬ IsByte item) :
    toByte item = .error (.invalidItem item) := if_neg bad

/-- An item is a byte when it is made of one. -/
theorem isByte_iff (item : Int) : IsByte item ↔ ∃ byte : UInt8, (byte.toNat : Int) = item := by
  constructor
  · rintro ⟨low, high⟩
    refine ⟨UInt8.ofNat item.toNat, ?_⟩
    rw [UInt8.toNat_ofNat']
    omega
  · rintro ⟨byte, rfl⟩
    have range := byte.toNat_lt
    constructor <;> omega

/-- Items are bytes when they are made of bytes. -/
theorem exists_ofBytes (items : List Int) :
    (∀ item ∈ items, IsByte item) ↔ ∃ bytes, ofBytes bytes = items := by
  have made := Set.range_list_map fun byte : UInt8 => (byte.toNat : Int)
  simp only [isByte_iff]
  exact (Set.ext_iff.mp made items).symm

/-- Bytes at the front of a list are taken one by one, and the rest of the list is left. -/
theorem pullBytes_ofBytes (bytes taken : List UInt8) (wanted : Nat) (rest : List Int) :
    pullBytes (bytes.length + wanted) taken (ofBytes bytes ++ rest) =
      pullBytes wanted (taken ++ bytes) rest := by
  induction bytes generalizing taken with
  | nil => simp [ofBytes]
  | cons byte bytes ih =>
    have count : (byte :: bytes).length + wanted = (bytes.length + wanted) + 1 := by
      rw [List.length_cons]
      omega
    have first : pull (ofBytes (byte :: bytes) ++ rest) =
        (.ok (some byte), ofBytes bytes ++ rest) := by
      simp only [ofBytes, List.map_cons, List.cons_append, pull, toByte_ofNat]
      rfl
    rw [count, pullBytes, first]
    dsimp only
    rw [ih, List.append_assoc, List.singleton_append]

/-- A list is read from where its bytes at the front end, as long as they are no more than
sixteen. -/
theorem pullBytes_sixteen (bytes : List UInt8) (rest : List Int) (few : bytes.length ≤ 16) :
    pullBytes 16 [] (ofBytes bytes ++ rest) = pullBytes (16 - bytes.length) bytes rest := by
  have count : bytes.length + (16 - bytes.length) = 16 := by omega
  have start := pullBytes_ofBytes bytes [] (16 - bytes.length) rest
  rwa [count, List.nil_append] at start

/-- The sixteen bytes of an identifier are read as it. -/
theorem visitList_of_bytes (id : Ulid) : visitList (ofBytes id.bytes.toList) = (.ok id, []) := by
  have read := pullBytes_sixteen id.bytes.toList [] (by simp)
  have made : Ulid.ofSlice id.bytes.toList = .ok id := Ulid.ofSlice_eq_ok_iff.mpr rfl
  rw [List.append_nil, Vector.length_toList] at read
  rw [visitList, read]
  simp only [Nat.sub_self, pullBytes, pull, made, Except.mapError]

/-- A list of fewer bytes is refused for its length. -/
theorem visitList_of_short (bytes : List UInt8) (short : bytes.length < 16) :
    visitList (ofBytes bytes) = (.error (.invalidLength bytes.length), []) := by
  have read := pullBytes_sixteen bytes [] (by omega)
  obtain ⟨wanted, missing⟩ : ∃ wanted, 16 - bytes.length = wanted + 1 :=
    ⟨15 - bytes.length, by omega⟩
  rw [List.append_nil, missing] at read
  rw [visitList, read]
  simp only [pullBytes, pull]

/-- A list with a seventeenth byte is refused, and what is behind that is not taken. -/
theorem visitList_of_long (bytes : List UInt8) (extra : UInt8) (after : List Int)
    (sixteen : bytes.length = 16) :
    visitList (ofBytes bytes ++ (extra.toNat : Int) :: after) =
      (.error (.invalidLength 17), after) := by
  have read := pullBytes_sixteen bytes ((extra.toNat : Int) :: after) (by omega)
  rw [sixteen, Nat.sub_self] at read
  rw [visitList, read]
  simp only [pullBytes, pull, toByte_ofNat, Except.map]

/-- A list is refused for the first of its items up to the seventeenth that is no byte, and what is
behind that is not taken. -/
theorem visitList_of_bad (bytes : List UInt8) (item : Int) (after : List Int)
    (few : bytes.length ≤ 16) (bad : ¬ IsByte item) :
    visitList (ofBytes bytes ++ item :: after) = (.error (.invalidItem item), after) := by
  have read := pullBytes_sixteen bytes (item :: after) few
  have refused := toByte_of_not_isByte item bad
  rw [visitList, read]
  by_cases all : bytes.length = 16
  · simp only [all, Nat.sub_self, pullBytes, pull, refused, Except.map]
  · obtain ⟨wanted, missing⟩ : ∃ wanted, 16 - bytes.length = wanted + 1 :=
      ⟨15 - bytes.length, by omega⟩
    simp only [missing, pullBytes, pull, refused, Except.map]

/-- A list is the bytes of an identifier, fewer bytes or more, or has an item that is no byte among
its first seventeen. -/
theorem list_cases (items : List Int) :
    (∃ id : Ulid, items = ofBytes id.bytes.toList) ∨
    (∃ bytes : List UInt8, bytes.length < 16 ∧ items = ofBytes bytes) ∨
    (∃ (bytes : List UInt8) (extra : UInt8) (after : List Int), bytes.length = 16 ∧
      items = ofBytes bytes ++ (extra.toNat : Int) :: after) ∨
    ∃ (bytes : List UInt8) (item : Int) (after : List Int), bytes.length ≤ 16 ∧ ¬ IsByte item ∧
      items = ofBytes bytes ++ item :: after := by
  -- The first seventeen items decide: whether all are bytes, and then how many there are.
  have split := List.take_append_drop 17 items
  have front : (items.take 17).length = min 17 items.length := List.length_take
  by_cases good : ∀ item ∈ items.take 17, IsByte item
  · obtain ⟨bytes, same⟩ := (exists_ofBytes _).mp good
    have count : bytes.length = min 17 items.length := by
      rw [← front, ← same, ofBytes, List.length_map]
    rw [← same] at split
    by_cases few : items.length ≤ 16
    · rw [List.drop_of_length_le (by omega), List.append_nil] at split
      by_cases sixteen : bytes.length = 16
      · exact .inl ⟨⟨⟨bytes.toArray, sixteen⟩⟩, split.symm⟩
      · exact .inr (.inl ⟨bytes, by omega, split.symm⟩)
    · obtain ⟨first, extra, rfl⟩ : ∃ first extra, bytes = first ++ [extra] := by
        rcases List.eq_nil_or_concat bytes with empty | ⟨first, extra, long⟩
        · rw [empty, List.length_nil] at count
          omega
        · exact ⟨first, extra, by rw [long, List.concat_eq_append]⟩
      rw [List.length_append, List.length_singleton] at count
      refine .inr (.inr (.inl ⟨first, extra, items.drop 17, by omega, split.symm.trans ?_⟩))
      simp [ofBytes]
  · obtain ⟨before, item, after, cut, known, bad⟩ := Base32.exists_first IsByte _ good
    obtain ⟨bytes, rfl⟩ := (exists_ofBytes before).mp known
    have count := congrArg List.length cut
    rw [front, List.length_append, List.length_cons, ofBytes, List.length_map] at count
    refine .inr (.inr (.inr ⟨bytes, item, after ++ items.drop 17, by omega, bad,
      split.symm.trans ?_⟩))
    rw [cut, List.append_assoc, List.cons_append]

/-- A list is read as an identifier exactly when its items are the bytes of it. -/
theorem visitList_eq_ok_iff (items : List Int) (id : Ulid) :
    (visitList items).1 = .ok id ↔ items = ofBytes id.bytes.toList := by
  constructor
  · intro read
    obtain ⟨other, rfl⟩ | ⟨bytes, short, rfl⟩ | ⟨bytes, extra, after, sixteen, rfl⟩ |
      ⟨bytes, item, after, few, bad, rfl⟩ := list_cases items
    · rw [visitList_of_bytes, Except.ok.injEq] at read
      rw [read]
    · rw [visitList_of_short bytes short] at read
      cases read
    · rw [visitList_of_long bytes extra after sixteen] at read
      cases read
    · rw [visitList_of_bad bytes item after few bad] at read
      cases read
  · rintro rfl
    rw [visitList_of_bytes]

/-- A list is accepted exactly when it has sixteen items and all are bytes. -/
theorem visitList_accepts_iff (items : List Int) :
    (∃ id, (visitList items).1 = .ok id) ↔ items.length = 16 ∧ ∀ item ∈ items, IsByte item := by
  simp only [visitList_eq_ok_iff]
  constructor
  · rintro ⟨id, rfl⟩
    exact ⟨by simp [ofBytes], (exists_ofBytes _).mpr ⟨_, rfl⟩⟩
  · rintro ⟨sixteen, good⟩
    obtain ⟨bytes, rfl⟩ := (exists_ofBytes items).mp good
    rw [ofBytes, List.length_map] at sixteen
    exact ⟨⟨⟨bytes.toArray, sixteen⟩⟩, rfl⟩

/-- A value with another cause of failure is that value. -/
theorem mapError_eq_ok_iff {α : Type} (result : Except Error α) (value : α) :
    result.mapError VisitError.refused = .ok value ↔ result = .ok value := by
  cases result <;> simp [Except.mapError]

/-- Bytes are read as an identifier exactly when they are the bytes of it. -/
theorem toUlid_bytes_eq_ok_iff (content : List UInt8) (id : Ulid) :
    toUlid (.bytes content) = .ok id ↔ content = id.bytes.toList := by
  rw [toUlid, mapError_eq_ok_iff, Ulid.ofSlice_eq_ok_iff, eq_comm]

/-- A text is read as an identifier exactly when it is the text of it, in any mix of cases. -/
theorem toUlid_text_eq_ok_iff (content : String) (id : Ulid) :
    toUlid (.text content) = .ok id ↔ content.toUpper = id.text := by
  rw [toUlid, mapError_eq_ok_iff, Ulid.parse_eq_ok_iff]

/-- A text that cannot be read is refused for the cause of that. -/
theorem toUlid_text_of_error (content : String) (cause : Error)
    (refused : Base32.decode .strict (Bytes.ofText content) = .error cause) :
    toUlid (.text content) = .error (.refused cause) := by
  rw [toUlid, Ulid.parse, refused]
  rfl

/-- The forms of an identifier agree and nothing else is one: a list is read as it when its items
are its bytes, bytes when they are its bytes, and a text when it is its text in any mix of cases. A
list is accepted when it has sixteen items, all of them bytes. Otherwise its first problem decides:
the first item that is no byte, up to the seventeenth, its end before the sixteenth item, or a
seventeenth byte; and the items behind that are left. Bytes of another length are refused for it,
and texts for their length, their first byte outside the alphabet or a first symbol above 7, with
the words that the library has for that. -/
theorem inputs_agree :
    (∀ id : Ulid,
      (∀ items, toUlid (.list items) = .ok id ↔ items = ofBytes id.bytes.toList) ∧
      (∀ content, toUlid (.bytes content) = .ok id ↔ content = id.bytes.toList) ∧
      ∀ content, toUlid (.text content) = .ok id ↔ content.toUpper = id.text) ∧
    (∀ items,
      toUlid (.list items) = (visitList items).1 ∧
      ((∃ id, toUlid (.list items) = .ok id) ↔
        items.length = 16 ∧ ∀ item ∈ items, IsByte item)) ∧
    (∀ before item after, before.length ≤ 16 → (∀ other ∈ before, IsByte other) → ¬ IsByte item →
      visitList (before ++ item :: after) = (.error (.invalidItem item), after)) ∧
    (∀ items, items.length < 16 → (∀ item ∈ items, IsByte item) →
      visitList items = (.error (.invalidLength items.length), [])) ∧
    (∀ sixteen extra after, sixteen.length = 16 → (∀ item ∈ sixteen, IsByte item) → IsByte extra →
      visitList (sixteen ++ extra :: after) = (.error (.invalidLength 17), after)) ∧
    (∀ content, content.length ≠ 16 →
      toUlid (.bytes content) = .error (.refused (.dataSize 16 content.length))) ∧
    (∀ content,
      (Bytes.ofText content).length ≠ 26 →
        toUlid (.text content) =
          .error (.refused (.dataSize 26 (Bytes.ofText content).length))) ∧
    (∀ content before byte after, (Bytes.ofText content).length = 26 →
      Bytes.ofText content = before ++ byte :: after →
      (∀ other ∈ before, Base32.InAlphabet other) → ¬ Base32.InAlphabet byte →
      toUlid (.text content) = .error (.refused (.invalidCharacter byte before.length))) ∧
    (∀ content, (Bytes.ofText content).length = 26 →
      (∀ byte ∈ Bytes.ofText content, Base32.InAlphabet byte) →
      7 < Base32.digit ((Bytes.ofText content).getD 0 0) →
      toUlid (.text content) = .error (.refused .overflow)) ∧
    ∀ cause, (VisitError.refused cause).message = cause.message := by
  refine ⟨fun id => ⟨fun items => visitList_eq_ok_iff items id,
    fun content => toUlid_bytes_eq_ok_iff content id,
    fun content => toUlid_text_eq_ok_iff content id⟩,
    fun items => ⟨rfl, visitList_accepts_iff items⟩, ?_, ?_, ?_, ?_, ?_, ?_, ?_, fun cause => rfl⟩
  · intro before item after few good bad
    obtain ⟨bytes, rfl⟩ := (exists_ofBytes before).mp good
    rw [ofBytes, List.length_map] at few
    exact visitList_of_bad bytes item after few bad
  · intro items short good
    obtain ⟨bytes, rfl⟩ := (exists_ofBytes items).mp good
    rw [ofBytes, List.length_map] at short ⊢
    exact visitList_of_short bytes short
  · intro sixteen extra after count good byte
    obtain ⟨bytes, rfl⟩ := (exists_ofBytes sixteen).mp good
    obtain ⟨last, rfl⟩ := (isByte_iff extra).mp byte
    rw [ofBytes, List.length_map] at count
    exact visitList_of_long bytes last after count
  · intro content other
    rw [toUlid, Ulid.ofSlice_of_length other]
    rfl
  · intro content other
    exact toUlid_text_of_error content _ (Base32.decode_of_length .strict _ other)
  · intro content before byte after length cut known unknown
    rw [cut] at length
    apply toUlid_text_of_error
    rw [cut]
    exact Base32.decode_of_foreign before after byte length known unknown
  · intro content length known large
    exact toUlid_text_of_error content _ (Base32.decode_of_overflow .strict _ length known large)

end SortableId.Held
