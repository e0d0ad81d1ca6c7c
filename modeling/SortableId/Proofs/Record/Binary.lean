import Mathlib
import SortableId.Record.Binary
import SortableId.Proofs.Fields
import SortableId.Proofs.Record.OrderedMap

/-!
# Laws of binary forms

Three laws of a form, each kept by every way of making forms from others: it reads back what it
writes and leaves what follows (`Form.LawfulAt`), it reads nothing but what it writes
(`Form.Canonical`), and more bytes behind change nothing unless a read ran out of them
(`Steady`). A lawful and steady form is self-delimiting: every proper prefix of what it writes
runs out. A map is not canonical, since its entries are read in any order.
-/

namespace SortableId.Binary

variable {α β : Type}

/-- More bytes behind change nothing, unless a read ran out of bytes. -/
structure Steady (read : List UInt8 → Except ReadError (α × List UInt8)) : Prop where
  /-- A value stays, with more left behind it. -/
  value : ∀ bytes found rest, read bytes = .ok (found, rest) →
    ∀ more, read (bytes ++ more) = .ok (found, rest ++ more)
  /-- Any other problem stays. -/
  problem : ∀ bytes cause, read bytes = .error cause → cause ≠ .exhausted →
    ∀ more, read (bytes ++ more) = .error cause

namespace Steady

/-- Reading nothing is steady. -/
theorem pure (found : α) : Steady fun bytes => .ok (found, bytes) where
  value := by
    rintro bytes _ _ ⟨⟩ more
    rfl
  problem := nofun

/-- A problem that does not depend on bytes is steady. -/
theorem fail (cause : ReadError) :
    Steady fun _ => (.error cause : Except ReadError (α × List UInt8)) where
  value := nofun
  problem := by
    rintro bytes _ ⟨⟩ - more
    rfl

/-- Reads in sequence are steady if each of them is. -/
theorem bind {first : List UInt8 → Except ReadError (α × List UInt8)}
    {next : α × List UInt8 → Except ReadError (β × List UInt8)} (steady : Steady first)
    (onward : ∀ found, Steady fun rest => next (found, rest)) :
    Steady fun bytes => first bytes >>= next where
  value bytes last rest read more := by
    cases front : first bytes with
    | error cause => exact nomatch front ▸ read
    | ok pair =>
      obtain ⟨found, middle⟩ := pair
      rw [front] at read
      rw [steady.value bytes found middle front more]
      exact (onward found).value middle last rest read more
  problem bytes cause read kind more := by
    cases front : first bytes with
    | error earlier =>
      rw [front] at read
      obtain rfl : earlier = cause := Except.error.inj read
      rw [steady.problem bytes earlier front kind more]
      rfl
    | ok pair =>
      obtain ⟨found, middle⟩ := pair
      rw [front] at read
      rw [steady.value bytes found middle front more]
      exact (onward found).problem middle cause read kind more

end Steady

/-- A sequence that gives a value has a first step that gives one, and goes on from it. -/
theorem exists_of_bind {first : Except ReadError α} {next : α → Except ReadError β} {result : β}
    (read : first >>= next = .ok result) :
    ∃ found, first = .ok found ∧ next found = .ok result := by
  cases first with
  | error cause => exact nomatch read
  | ok found => exact ⟨found, rfl, read⟩

namespace Form

/-- Reading the bytes of a value, with any others behind, returns the value and the others. -/
abbrev LawfulAt (form : Form α) (value : α) : Prop :=
  ∀ rest, form.read (form.write value ++ rest) = .ok (value, rest)

/-- Every value read is written in front of the bytes that are returned. -/
abbrev Canonical (form : Form α) : Prop :=
  ∀ bytes value rest, form.read bytes = .ok (value, rest) → bytes = form.write value ++ rest

/-- What a steady form reads back has no proper prefix with a value of its own: the bytes run
out. -/
theorem LawfulAt.exhausted {form : Form α} {value : α} (lawful : form.LawfulAt value)
    (steady : Steady form.read) (front : List UInt8) (before : front <+: form.write value)
    (shorter : front ≠ form.write value) : form.read front = .error .exhausted := by
  obtain ⟨more, whole⟩ := before
  have complete : form.read (front ++ more) = .ok (value, []) := by
    rw [whole, ← List.append_nil (form.write value)]
    exact lawful []
  cases read : form.read front with
  | ok pair =>
    obtain ⟨found, rest⟩ := pair
    rw [steady.value front found rest read more] at complete
    have nothing : rest ++ more = [] := congrArg Prod.snd (Except.ok.inj complete)
    rw [(List.append_eq_nil_iff.mp nothing).2, List.append_nil] at whole
    exact absurd whole shorter
  | error cause =>
    by_cases ended : cause = .exhausted
    · rw [ended]
    · rw [steady.problem front cause read ended more] at complete
      exact nomatch complete

end Form

/-! ## Bytes by count -/

/-- Taking as many bytes as there are in front. -/
theorem take_append (front rest : List UInt8) :
    take front.length (front ++ rest) = .ok (front, rest) := by
  rw [take, List.take_left, List.drop_left, if_pos rfl]

/-- What is taken has the length asked for and stood in front. -/
theorem eq_append_of_take (size : Nat) (bytes front rest : List UInt8)
    (taken : take size bytes = .ok (front, rest)) :
    front.length = size ∧ bytes = front ++ rest := by
  rw [take] at taken
  split at taken
  · rename_i enough
    obtain ⟨rfl, rfl⟩ := Prod.mk.inj (Except.ok.inj taken)
    exact ⟨enough, (List.take_append_drop size bytes).symm⟩
  · exact nomatch taken

/-- Taking bytes is steady. -/
theorem take_steady (size : Nat) : Steady (take size) where
  value bytes front rest taken more := by
    obtain ⟨rfl, rfl⟩ := eq_append_of_take size bytes front rest taken
    rw [List.append_assoc, take_append]
  problem bytes cause failed other := by
    rw [take] at failed
    split at failed
    · exact nomatch failed
    · exact absurd (Except.error.inj failed).symm other

/-! ## Numbers -/

/-- A number that fits its bytes is read back. -/
theorem number_lawful (size value : Nat) (fits : value < 256 ^ size) :
    (number size).LawfulAt value := by
  intro rest
  have taken : take size ((Bytes.ofNat size value).toList.reverse ++ rest) =
      .ok ((Bytes.ofNat size value).toList.reverse, rest) := by
    have taken := take_append (Bytes.ofNat size value).toList.reverse rest
    rwa [List.length_reverse, Vector.length_toList] at taken
  have same : Bytes.toNat (Bytes.ofNat size value).toList = value := by
    rw [Bytes.toNat_ofNat, Nat.mod_eq_of_lt fits]
  simp only [number, taken, bind, Except.bind, pure, Except.pure, List.reverse_reverse, same]

/-- A number read is below the combinations of its bytes. -/
theorem number_lt (size : Nat) (bytes rest : List UInt8) (value : Nat)
    (read : (number size).read bytes = .ok (value, rest)) : value < 256 ^ size := by
  obtain ⟨⟨front, behind⟩, taken, made⟩ := exists_of_bind read
  obtain ⟨rfl, rfl⟩ := Prod.mk.inj (Except.ok.inj made)
  have bound := Bytes.toNat_lt front.reverse
  rwa [List.length_reverse, (eq_append_of_take size bytes front behind taken).1] at bound

/-- A number has one form of its size. -/
theorem number_canonical (size : Nat) : (number size).Canonical := by
  intro bytes value rest read
  obtain ⟨⟨front, behind⟩, taken, made⟩ := exists_of_bind read
  obtain ⟨length, rfl⟩ := eq_append_of_take size bytes front behind taken
  obtain ⟨rfl, rfl⟩ := Prod.mk.inj (Except.ok.inj made)
  have bound := Bytes.toNat_lt front.reverse
  rw [List.length_reverse, length] at bound
  have written : (Bytes.ofNat size (Bytes.toNat front.reverse)).toList = front.reverse := by
    apply Bytes.toNat_injective _ _ (by simp [length])
    rw [Bytes.toNat_ofNat, Nat.mod_eq_of_lt bound]
  simp only [number, written, List.reverse_reverse]

/-- Numbers are read steadily. -/
theorem number_steady (size : Nat) : Steady (number size).read :=
  (take_steady size).bind fun front => .pure (Bytes.toNat front.reverse)

/-! ## Identifiers -/

/-- An identifier is read back. -/
theorem ulid_lawful (id : Ulid) : ulid.LawfulAt id := by
  intro rest
  have counted := number_lawful 8 binaryLength (by decide) (id.bytes.toList ++ rest)
  have taken : take binaryLength (id.bytes.toList ++ rest) = .ok (id.bytes.toList, rest) := by
    have length : id.bytes.toList.length = binaryLength := Vector.length_toList
    rw [← length]
    exact take_append id.bytes.toList rest
  have made : Ulid.ofSlice id.bytes.toList = .ok id := Ulid.ofSlice_eq_ok_iff.mpr rfl
  simp only [ulid, count, List.append_assoc, counted, taken, made, bind, Except.bind, pure,
    Except.pure]

/-- An identifier has one form: its length is sixteen. -/
theorem ulid_canonical : ulid.Canonical := by
  intro bytes id rest read
  obtain ⟨⟨length, behind⟩, counted, content⟩ := exists_of_bind read
  obtain ⟨⟨front, last⟩, taken, admitted⟩ := exists_of_bind content
  obtain ⟨rfl, rfl⟩ := eq_append_of_take length behind front last taken
  dsimp only at admitted
  cases made : Ulid.ofSlice front with
  | error cause =>
    rw [made] at admitted
    exact nomatch admitted
  | ok found =>
    rw [made] at admitted
    obtain ⟨rfl, rfl⟩ := Prod.mk.inj (Except.ok.inj admitted)
    rw [number_canonical 8 bytes _ _ counted, ← Ulid.ofSlice_eq_ok_iff.mp made]
    simp only [ulid, count, Vector.length_toList, binaryLength, List.append_assoc]

/-- Identifiers are read steadily. -/
theorem ulid_steady : Steady ulid.read := by
  refine (number_steady 8).bind fun length => (take_steady length).bind ?_
  intro front
  dsimp only
  cases Ulid.ofSlice front with
  | ok id => exact .pure id
  | error cause => exact .fail (.refused cause)

/-! ## Optional values -/

/-- An optional value is read back. -/
theorem option_lawful {form : Form α} (value : Option α)
    (lawful : ∀ content ∈ value, form.LawfulAt content) : (option form).LawfulAt value := by
  intro rest
  cases value with
  | none => rfl
  | some content =>
    have read := lawful content rfl rest
    simp only [option, List.cons_append, show (1 : UInt8) ≠ 0 by decide, ↓reduceIte, read, bind,
      Except.bind, pure, Except.pure]

/-- What is read as an optional value is none behind the tag 0 or a value behind the tag 1. -/
theorem option_read_cases {form : Form α} {bytes rest : List UInt8} {value : Option α}
    (read : (option form).read bytes = .ok (value, rest)) :
    (value = none ∧ bytes = 0 :: rest) ∨
      ∃ content behind, value = some content ∧ bytes = 1 :: behind ∧
        form.read behind = .ok (content, rest) := by
  cases bytes with
  | nil => cases read
  | cons tag behind =>
    by_cases zero : tag = 0
    · subst zero
      obtain ⟨rfl, rfl⟩ := Prod.mk.inj (Except.ok.inj read)
      exact .inl ⟨rfl, rfl⟩
    · by_cases one : tag = 1
      · subst one
        obtain ⟨⟨content, last⟩, found, made⟩ := exists_of_bind read
        obtain ⟨rfl, rfl⟩ := Prod.mk.inj (Except.ok.inj made)
        exact .inr ⟨content, behind, rfl, rfl, found⟩
      · simp [option, zero, one] at read

/-- An optional value has one form: its tag is 0 or 1. -/
theorem option_canonical {form : Form α} (canonical : form.Canonical) :
    (option form).Canonical := by
  intro bytes value rest read
  obtain ⟨rfl, rfl⟩ | ⟨content, behind, rfl, rfl, found⟩ := option_read_cases read
  · rfl
  · rw [canonical behind content rest found]
    rfl

/-- Optional values are read steadily. -/
theorem option_steady {form : Form α} (steady : Steady form.read) :
    Steady (option form).read := by
  have content : Steady fun bytes => form.read bytes >>= fun found =>
      .ok (some found.1, found.2) := steady.bind fun value => .pure (some value)
  constructor
  · intro bytes value rest read more
    obtain ⟨rfl, rfl⟩ | ⟨found, behind, rfl, rfl, inner⟩ := option_read_cases read
    · rfl
    · exact content.value behind (some found) rest (by rw [inner]; rfl) more
  · intro bytes cause read kind more
    cases bytes with
    | nil => exact absurd (Except.error.inj read).symm kind
    | cons tag behind =>
      by_cases zero : tag = 0
      · subst zero
        cases read
      · by_cases one : tag = 1
        · subst one
          exact content.problem behind cause read kind more
        · simpa [option, zero, one] using read

/-! ## Values in order -/

/-- Two values are read back in order. -/
theorem pair_lawful {left : Form α} {right : Form β} {first : α} {second : β}
    (front : left.LawfulAt first) (back : right.LawfulAt second) :
    (pair left right).LawfulAt (first, second) := by
  intro rest
  simp only [pair, List.append_assoc, front (right.write second ++ rest), back rest, bind,
    Except.bind, pure, Except.pure]

/-- Two values in order have one form if each has. -/
theorem pair_canonical {left : Form α} {right : Form β} (front : left.Canonical)
    (back : right.Canonical) : (pair left right).Canonical := by
  intro bytes value rest read
  obtain ⟨⟨first, middle⟩, one, read⟩ := exists_of_bind read
  obtain ⟨⟨second, last⟩, other, made⟩ := exists_of_bind read
  obtain ⟨rfl, rfl⟩ := Prod.mk.inj (Except.ok.inj made)
  rw [front bytes first middle one, back middle second last other]
  simp only [pair, List.append_assoc]

/-- Two values in order are read steadily if each is. -/
theorem pair_steady {left : Form α} {right : Form β} (front : Steady left.read)
    (back : Steady right.read) : Steady (pair left right).read :=
  front.bind fun first => back.bind fun second => .pure (first, second)

/-! ## Lists -/

/-- As many values as were written are read back. -/
theorem readMany_lawful {form : Form α} (values : List α)
    (lawful : ∀ value ∈ values, form.LawfulAt value) (rest : List UInt8) :
    readMany form values.length (values.flatMap form.write ++ rest) = .ok (values, rest) := by
  induction values with
  | nil => rfl
  | cons value values ih =>
    have first := lawful value List.mem_cons_self (values.flatMap form.write ++ rest)
    have others := ih fun other mem => lawful other (List.mem_cons_of_mem value mem)
    simp only [List.length_cons, readMany, List.flatMap_cons, List.append_assoc, first, others,
      bind, Except.bind, pure, Except.pure]

/-- Values read in order are as many as asked for, and were written in front. -/
theorem eq_append_of_readMany {form : Form α} (canonical : form.Canonical) (size : Nat)
    (bytes rest : List UInt8) (values : List α)
    (read : readMany form size bytes = .ok (values, rest)) :
    values.length = size ∧ bytes = values.flatMap form.write ++ rest := by
  induction size generalizing bytes values with
  | zero =>
    obtain ⟨rfl, rfl⟩ := Prod.mk.inj (Except.ok.inj read)
    exact ⟨rfl, rfl⟩
  | succ size ih =>
    obtain ⟨⟨value, middle⟩, first, read⟩ := exists_of_bind read
    obtain ⟨⟨more, last⟩, others, made⟩ := exists_of_bind read
    obtain ⟨rfl, rfl⟩ := Prod.mk.inj (Except.ok.inj made)
    obtain ⟨length, behind⟩ := ih middle more others
    refine ⟨congrArg Nat.succ length, ?_⟩
    rw [canonical bytes value middle first, behind, List.flatMap_cons, List.append_assoc]

/-- Values in order are read steadily if each is. -/
theorem readMany_steady {form : Form α} (steady : Steady form.read) (size : Nat) :
    Steady (readMany form size) := by
  induction size with
  | zero => exact .pure []
  | succ size ih => exact steady.bind fun value => ih.bind fun values => .pure (value :: values)

/-- A list whose length has 64 bits is read back. -/
theorem list_lawful {form : Form α} (values : List α) (fits : values.length < UInt64.size)
    (lawful : ∀ value ∈ values, form.LawfulAt value) : (list form).LawfulAt values := by
  intro rest
  have counted := number_lawful 8 values.length fits (values.flatMap form.write ++ rest)
  simp only [list, count, List.append_assoc, counted, readMany_lawful values lawful rest, bind,
    Except.bind]

/-- A list has one form if its elements have. -/
theorem list_canonical {form : Form α} (canonical : form.Canonical) :
    (list form).Canonical := by
  intro bytes values rest read
  obtain ⟨⟨size, behind⟩, counted, others⟩ := exists_of_bind read
  obtain ⟨rfl, rfl⟩ := eq_append_of_readMany canonical size behind rest values others
  rw [number_canonical 8 bytes _ _ counted]
  simp only [list, count, List.append_assoc]

/-- Lists are read steadily if their elements are. -/
theorem list_steady {form : Form α} (steady : Steady form.read) : Steady (list form).read :=
  (number_steady 8).bind fun size => readMany_steady steady size

/-! ## Other types -/

/-- A value of another type is read back if its content is and makes it again. -/
theorem convert_lawful {form : Form α} {make : α → β} {content : β → α} (value : β)
    (lawful : form.LawfulAt (content value)) (inverse : make (content value) = value) :
    (form.convert make content).LawfulAt value := by
  intro rest
  simp only [Form.convert, lawful rest, inverse, bind, Except.bind, pure, Except.pure]

/-- A value of another type has one form if contents have, and it keeps its content. -/
theorem convert_canonical {form : Form α} {make : α → β} {content : β → α}
    (canonical : form.Canonical)
    (inverse : ∀ bytes raw rest, form.read bytes = .ok (raw, rest) → content (make raw) = raw) :
    (form.convert make content).Canonical := by
  intro bytes value rest read
  obtain ⟨⟨raw, last⟩, found, made⟩ := exists_of_bind read
  obtain ⟨rfl, rfl⟩ := Prod.mk.inj (Except.ok.inj made)
  have kept : content (make raw) = raw := inverse bytes raw last found
  simp only [Form.convert, kept]
  exact canonical bytes raw last found

/-- Values of another type are read steadily if contents are. -/
theorem convert_steady {form : Form α} (make : α → β) (content : β → α)
    (steady : Steady form.read) : Steady (form.convert make content).read :=
  steady.bind fun raw => .pure (make raw)

/-! ## Stored shapes -/

/-- An optional identifier is read back. -/
theorem parent_lawful (value : Option Ulid) : (option ulid).LawfulAt value :=
  option_lawful value fun id _ => ulid_lawful id

/-- A map whose count of entries has 64 bits is read back. -/
theorem map_lawful (stored : IdMap) (fits : stored.entries.length < UInt64.size) :
    map.LawfulAt stored := by
  refine convert_lawful stored ?_ (IdMap.ofList_entries stored)
  exact list_lawful stored.entries fits fun entry _ =>
    pair_lawful (ulid_lawful entry.1) (parent_lawful entry.2)

/-- A row is read back. -/
theorem row_lawful (stored : Row) : row.LawfulAt stored := by
  refine convert_lawful stored ?_ rfl
  exact pair_lawful (ulid_lawful stored.eventId) (parent_lawful stored.parent)

/-- A row has one form. -/
theorem row_canonical : row.Canonical := by
  refine convert_canonical ?_ fun _ _ _ _ => rfl
  exact pair_canonical ulid_canonical (option_canonical ulid_canonical)

/-- A number of 128 bits is read back. -/
theorem numeric_lawful (stored : Numeric) : numeric.LawfulAt stored := by
  refine convert_lawful stored (number_lawful 16 stored.id.toNat ?_) ?_
  · exact Nat.lt_of_lt_of_eq stored.id.toNat_lt (by norm_num)
  · exact congrArg (fun bytes => Numeric.mk ⟨bytes⟩) (Bytes.ofNat_toNat stored.id.bytes)

/-- A number of 128 bits has one form. -/
theorem numeric_canonical : numeric.Canonical := by
  refine convert_canonical (number_canonical 16) fun bytes value rest read => ?_
  have bound := number_lt 16 bytes rest value read
  exact (Bytes.toNat_ofNat 16 value).trans (Nat.mod_eq_of_lt bound)

end Binary

/-- A value that memory can hold: its length has 64 bits. -/
def Shape.Fits : (shape : Shape) → shape.Value → Prop
  | .list, values => values.length < UInt64.size
  | .map, stored => stored.entries.length < UInt64.size
  | _, _ => True

namespace Shape

open Binary

/-- The bytes of a value of any shape are read back. -/
theorem binary_lawful (shape : Shape) (value : shape.Value) (fits : shape.Fits value) :
    shape.binary.LawfulAt value := by
  cases shape with
  | ulid => exact ulid_lawful value
  | option => exact parent_lawful value
  | list => exact list_lawful value fits fun id _ => parent_lawful id
  | map => exact map_lawful value fits
  | row => exact row_lawful value
  | numeric => exact numeric_lawful value

/-- Values of every shape are read steadily. -/
theorem binary_steady (shape : Shape) : Steady shape.binary.read := by
  have parent := option_steady ulid_steady
  cases shape with
  | ulid => exact ulid_steady
  | option => exact parent
  | list => exact list_steady parent
  | map => exact convert_steady _ _ (list_steady (pair_steady ulid_steady parent))
  | row => exact convert_steady _ _ (pair_steady ulid_steady parent)
  | numeric => exact convert_steady _ _ (number_steady 16)

/-- A value of any shape but a map has one form. -/
theorem binary_canonical (shape : Shape) (other : shape ≠ .map) : shape.binary.Canonical := by
  cases shape with
  | ulid => exact ulid_canonical
  | option => exact option_canonical ulid_canonical
  | list => exact list_canonical (option_canonical ulid_canonical)
  | map => exact absurd rfl other
  | row => exact row_canonical
  | numeric => exact numeric_canonical

/-- The bytes of a value are read back as it whatever follows them, every proper prefix of them
runs out of bytes, and except for maps no other bytes are read as the value. -/
theorem stored_bytes (shape : Shape) :
    (∀ value, shape.Fits value → ∀ rest,
      shape.binary.read (shape.binary.write value ++ rest) = .ok (value, rest)) ∧
    (∀ value, shape.Fits value → ∀ front, front <+: shape.binary.write value →
      front ≠ shape.binary.write value → shape.binary.read front = .error .exhausted) ∧
    (shape ≠ .map → ∀ bytes value rest, shape.binary.read bytes = .ok (value, rest) →
      bytes = shape.binary.write value ++ rest) :=
  ⟨shape.binary_lawful,
    fun value fits => (shape.binary_lawful value fits).exhausted shape.binary_steady,
    shape.binary_canonical⟩

end Shape

end SortableId
