import Mathlib
import SortableId.Record.Json
import SortableId.Proofs.Fields
import SortableId.Proofs.TextBytes
import SortableId.Proofs.Json.Reader
import SortableId.Proofs.Record.OrderedMap

/-!
# Laws of JSON forms

A form that is lawful at a value reads the text of the value back and leaves what is behind it
(`Form.LawfulAt`). Lists and objects are read element by element: a step lemma says how one element
is taken off, and the induction is on the elements still to come, with a round for each. A text is
never shorter than its elements are many, so the rounds that a text allows are enough. Texts that
are read as an identifier can differ from its own in case and escapes only.
-/

namespace SortableId

/-- A text form is written in characters that stand for themselves. -/
theorem Ulid.text_plain (id : Ulid) : ∀ char ∈ id.text.toList, Json.Plain char := by
  have checked : (Base32.alphabet.toList.all fun char => decide (Json.Plain char)) = true := by
    decide +kernel
  intro char mem
  exact of_decide_eq_true (List.all_eq_true.mp checked char (id.text_in_alphabet char mem))

namespace Json

variable {α : Type}

/-- Reading the text of a value, with anything behind, returns the value and what is behind. -/
abbrev Form.LawfulAt (form : Form α) (value : α) : Prop :=
  ∀ rest, form.read.run (form.write value ++ rest) = .ok (value, rest)

/-! ## Identifiers -/

/-- A text form is accepted as its identifier. -/
theorem accept_text (id : Ulid) (rest : List Char) :
    (accept id.text).run rest = .ok (id, rest) := by
  rw [accept, Ulid.parse_text]
  rfl

/-- A text in quotes, with anything behind. -/
theorem quote_append (text : String) (rest : List Char) :
    quote text ++ rest = '"' :: (text.toList ++ '"' :: rest) := by
  simp only [quote, List.cons_append, List.append_assoc, List.nil_append]

/-- An identifier is read back. -/
theorem ulid_lawful (id : Ulid) : ulid.LawfulAt id := by
  intro rest
  have written : ulid.write id ++ rest = '"' :: (id.text.toList ++ '"' :: rest) :=
    quote_append id.text rest
  have opened (text : List Char) :
      ulid.read.run ('"' :: text) = (string >>= accept).run text := rfl
  rw [written, opened, run_bind_of_ok (string_plain id.text rest id.text_plain), accept_text]

/-- An identifier begins with a quote. -/
theorem ulid_begins (id : Ulid) (other : Char) (differs : '"' ≠ other) :
    Begins (ulid.write id) other :=
  ⟨'"', _, rfl, rfl, differs⟩

/-! ## Optional values -/

/-- An optional value is read back. -/
theorem option_lawful {form : Form α} (value : Option α)
    (lawful : ∀ content ∈ value, form.LawfulAt content)
    (begins : ∀ content ∈ value, Begins (form.write content) 'n') :
    (option form).LawfulAt value := by
  intro rest
  cases value with
  | none => rfl
  | some content =>
    have read := lawful content rfl rest
    obtain ⟨first, behind, written, token, other⟩ := begins content rfl
    have shown := peekToken_cons first (behind ++ rest) token
    rw [← List.cons_append, ← written] at shown
    rw [option]
    dsimp only
    rw [run_bind_of_ok shown]
    split
    · rename_i null
      exact absurd (Option.some.inj null) other
    · rw [run_bind_of_ok read]
      rfl

/-- An optional identifier is read back. -/
theorem parent_lawful (value : Option Ulid) : (option ulid).LawfulAt value :=
  option_lawful value (fun id _ => ulid_lawful id) fun id _ => ulid_begins id 'n' (by decide)

/-- An optional identifier does not begin with a bracket. -/
theorem parent_begins (value : Option Ulid) : Begins ((option ulid).write value) ']' := by
  cases value with
  | none => exact ⟨'n', _, rfl, rfl, by decide⟩
  | some id => exact ulid_begins id ']' (by decide)

/-! ## Lists -/

/-- Texts with commas before them are no more than their characters. -/
theorem length_le_flatMap_comma (texts : List (List Char)) :
    texts.length ≤ (texts.flatMap (',' :: ·)).length := by
  induction texts with
  | nil => exact Nat.le_refl 0
  | cons text texts ih =>
    rw [List.flatMap_cons, List.length_append, List.length_cons, List.length_cons]
    omega

/-- Texts after the first have a comma before them. -/
theorem commas_cons (text : List Char) (texts : List (List Char)) :
    commas (text :: texts) = text ++ texts.flatMap (',' :: ·) := by
  induction texts generalizing text with
  | nil => rw [commas, List.flatMap_nil, List.append_nil]
  | cons next texts ih =>
    rw [commas, ih, List.flatMap_cons, List.cons_append]
    nofun

/-- A list goes on with an element and what is read after it. -/
theorem elements_step {form : Form α} {value : α} {values : List α} {rounds : Nat} {first : Bool}
    {text rest last : List Char} (lawful : form.LawfulAt value)
    (element : (hasElement first).run text = .ok (true, form.write value ++ rest))
    (onward : (elements form rounds false).run rest = .ok (values, last)) :
    (elements form (rounds + 1) first).run text = .ok (value :: values, last) := by
  rw [elements, run_bind_of_ok element, if_pos rfl, run_bind_of_ok (lawful rest),
    run_bind_of_ok onward]
  rfl

/-- The elements after the first are read up to the closing bracket. -/
theorem elements_next {form : Form α} (values : List α)
    (lawful : ∀ value ∈ values, form.LawfulAt value)
    (begins : ∀ value ∈ values, Begins (form.write value) ']') (rounds : Nat)
    (enough : values.length < rounds) (rest : List Char) :
    (elements form rounds false).run
      ((values.map form.write).flatMap (',' :: ·) ++ ']' :: rest) = .ok (values, ']' :: rest) := by
  induction values generalizing rounds with
  | nil =>
    obtain ⟨rounds, rfl⟩ := Nat.exists_eq_succ_of_ne_zero (Nat.ne_of_gt enough)
    rfl
  | cons value values ih =>
    obtain ⟨rounds, rfl⟩ := Nat.exists_eq_succ_of_ne_zero (Nat.ne_of_gt (Nat.zero_lt_of_lt enough))
    obtain ⟨read, others⟩ := List.forall_mem_cons.mp lawful
    obtain ⟨opens, further⟩ := List.forall_mem_cons.mp begins
    rw [List.map_cons, List.flatMap_cons, List.cons_append, List.cons_append, List.append_assoc]
    exact elements_step read (hasElement_next _ (opens.append _))
      (ih others further rounds (Nat.lt_of_succ_lt_succ enough))

/-- The elements of a list are read up to the closing bracket. -/
theorem elements_all {form : Form α} (values : List α)
    (lawful : ∀ value ∈ values, form.LawfulAt value)
    (begins : ∀ value ∈ values, Begins (form.write value) ']') (rest : List Char) :
    (within (elements form · true)).run (commas (values.map form.write) ++ ']' :: rest) =
      .ok (values, ']' :: rest) := by
  cases values with
  | nil => rfl
  | cons value values =>
    obtain ⟨read, others⟩ := List.forall_mem_cons.mp lawful
    obtain ⟨opens, further⟩ := List.forall_mem_cons.mp begins
    have longer := length_le_flatMap_comma (values.map form.write)
    rw [List.length_map] at longer
    rw [List.map_cons, commas_cons, List.append_assoc, within_run]
    have element := hasElement_first _ (opens.append
      ((values.map form.write).flatMap (',' :: ·) ++ ']' :: rest))
    refine elements_step read element (elements_next values others further _ ?_ rest)
    rw [List.length_append, List.length_append, List.length_cons]
    omega

/-- A list is read back. -/
theorem list_lawful {form : Form α} (values : List α)
    (lawful : ∀ value ∈ values, form.LawfulAt value)
    (begins : ∀ value ∈ values, Begins (form.write value) ']') : (list form).LawfulAt values := by
  intro rest
  have written : (list form).write values ++ rest =
      '[' :: (commas (values.map form.write) ++ ']' :: rest) := by
    simp only [list, List.cons_append, List.append_assoc, List.nil_append]
  have opened (text : List Char) : (list form).read.run ('[' :: text) =
      (within (elements form · true) >>= fun values =>
        close ']' >>= fun _ => return values).run text := rfl
  rw [written, opened]
  exact run_closed ']' rfl (elements_all values lawful begins rest) fun values => values

/-! ## Maps -/

/-- The text of an entry of a map. -/
def member (entry : Ulid × Option Ulid) : List Char :=
  ulid.write entry.1 ++ ':' :: (option ulid).write entry.2

/-- An entry is a key in quotes, a colon and the value. -/
theorem member_append (entry : Ulid × Option Ulid) (rest : List Char) :
    member entry ++ rest =
      '"' :: (entry.1.text.toList ++ '"' :: ':' :: ((option ulid).write entry.2 ++ rest)) := by
  rw [member, List.append_assoc, List.cons_append]
  exact quote_append entry.1.text _

/-- An object goes on with an entry and what is read after it. -/
theorem entries_step {entry : Ulid × Option Ulid} {found : List (Ulid × Option Ulid)}
    {rounds : Nat} {first : Bool} {text rest last : List Char}
    (key : (hasMember first).run text = .ok (true, member entry ++ rest))
    (onward : (entries rounds false).run rest = .ok (found, last)) :
    (entries (rounds + 1) first).run text = .ok (entry :: found, last) := by
  obtain ⟨id, value⟩ := entry
  rw [member_append] at key
  rw [entries, run_bind_of_ok key, if_pos rfl, run_bind_of_ok (advance_cons _ _),
    run_bind_of_ok (string_plain id.text _ id.text_plain), run_bind_of_ok (accept_text id _),
    run_bind_of_ok (colon_cons _), run_bind_of_ok (parent_lawful value rest),
    run_bind_of_ok onward]
  rfl

/-- The entries after the first are read up to the closing brace. -/
theorem entries_next (found : List (Ulid × Option Ulid)) (rounds : Nat)
    (enough : found.length < rounds) (rest : List Char) :
    (entries rounds false).run ((found.map member).flatMap (',' :: ·) ++ '\x7d' :: rest) =
      .ok (found, '\x7d' :: rest) := by
  induction found generalizing rounds with
  | nil =>
    obtain ⟨rounds, rfl⟩ := Nat.exists_eq_succ_of_ne_zero (Nat.ne_of_gt enough)
    rfl
  | cons entry found ih =>
    obtain ⟨rounds, rfl⟩ := Nat.exists_eq_succ_of_ne_zero (Nat.ne_of_gt (Nat.zero_lt_of_lt enough))
    rw [List.map_cons, List.flatMap_cons, List.cons_append, List.cons_append, List.append_assoc]
    have onward := ih rounds (Nat.lt_of_succ_lt_succ enough)
    refine entries_step ?_ onward
    rw [member_append, hasMember_next]

/-- The entries of a map are read up to the closing brace. -/
theorem entries_all (found : List (Ulid × Option Ulid)) (rest : List Char) :
    (within (entries · true)).run (commas (found.map member) ++ '\x7d' :: rest) =
      .ok (found, '\x7d' :: rest) := by
  cases found with
  | nil => rfl
  | cons entry found =>
    have longer := length_le_flatMap_comma (found.map member)
    rw [List.length_map] at longer
    rw [List.map_cons, commas_cons, List.append_assoc, within_run]
    refine entries_step ?_ (entries_next found _ ?_ rest)
    · rw [member_append, hasMember_first]
    · rw [List.length_append, List.length_append, List.length_cons]
      omega

/-- A map is read back. -/
theorem map_lawful (stored : IdMap) : map.LawfulAt stored := by
  intro rest
  have written : map.write stored ++ rest =
      '\x7b' :: (commas (stored.entries.map member) ++ '\x7d' :: rest) := by
    simp only [map, List.cons_append, List.append_assoc, List.nil_append]
    rfl
  have opened (text : List Char) : map.read.run ('\x7b' :: text) =
      (within (entries · true) >>= fun found =>
        close '\x7d' >>= fun _ => return .ofList found).run text := rfl
  have found := run_closed '\x7d' rfl (entries_all stored.entries rest) IdMap.ofList
  rw [stored.ofList_entries] at found
  rw [written, opened]
  exact found

/-! ## Rows -/

/-- A field is a name in quotes, a colon and the value. -/
theorem field_append (name : String) (value rest : List Char) :
    field name value ++ rest = '"' :: (name.toList ++ '"' :: ':' :: (value ++ rest)) := by
  rw [field, List.append_assoc, List.cons_append, quote_append]

/-- A row goes on with its own identifier. -/
theorem rowFields_eventId {id : Ulid} {parent : Option (Option Ulid)} {rounds : Nat} {first : Bool}
    {text rest : List Char}
    (key : (hasMember first).run text = .ok (true, field "event_id" (ulid.write id) ++ rest)) :
    (rowFields (rounds + 1) first none parent).run text =
      (rowFields rounds false (some id) parent).run rest := by
  have name (text : List Char) := string_plain "event_id" text (by simp [Plain])
  rw [field_append] at key
  rw [rowFields, run_bind_of_ok key, if_pos rfl, run_bind_of_ok (advance_cons _ _),
    run_bind_of_ok (name _), if_pos (beq_self_eq_true _)]
  dsimp only
  rw [if_neg (by simp), run_bind_of_ok (colon_cons _), run_bind_of_ok (ulid_lawful id rest)]

/-- A row goes on with the identifier of its parent after its own. -/
theorem rowFields_parent {id : Ulid} {value : Option Ulid} {rounds : Nat} {first : Bool}
    {text rest : List Char}
    (key : (hasMember first).run text =
      .ok (true, field "parent" ((option ulid).write value) ++ rest)) :
    (rowFields (rounds + 1) first (some id) none).run text =
      (rowFields rounds false (some id) (some value)).run rest := by
  have name (text : List Char) := string_plain "parent" text (by simp [Plain])
  rw [field_append] at key
  rw [rowFields, run_bind_of_ok key, if_pos rfl, run_bind_of_ok (advance_cons _ _),
    run_bind_of_ok (name _), if_neg (by decide), if_pos (beq_self_eq_true _)]
  dsimp only
  rw [if_neg (by simp), run_bind_of_ok (colon_cons _), run_bind_of_ok (parent_lawful value rest)]

/-- A row is read back. -/
theorem row_lawful (stored : Row) : row.LawfulAt stored := by
  intro rest
  obtain ⟨id, parent⟩ := stored
  have written : row.write ⟨id, parent⟩ ++ rest =
      '\x7b' :: (field "event_id" (ulid.write id) ++
        ',' :: (field "parent" ((option ulid).write parent) ++ '\x7d' :: rest)) := by
    simp only [row, commas, List.cons_append, List.append_assoc, List.nil_append]
  have opened (text : List Char) : row.read.run ('\x7b' :: text) =
      (within (rowFields · true none none) >>= fun row =>
        close '\x7d' >>= fun _ => return row).run text := rfl
  have fields (text : List Char) (whole : text = field "event_id" (ulid.write id) ++
      ',' :: (field "parent" ((option ulid).write parent) ++ '\x7d' :: rest)) :
      (within (rowFields · true none none)).run text = .ok (⟨id, parent⟩, '\x7d' :: rest) := by
    have long : 2 ≤ text.length := by
      rw [whole, field_append]
      simp
    obtain ⟨rounds, enough⟩ := Nat.exists_eq_add_of_le' long
    rw [within_run, enough, rowFields_eventId (by rw [whole, field_append, hasMember_first]),
      rowFields_parent (by rw [field_append, hasMember_next])]
    rfl
  rw [written, opened]
  exact run_closed '\x7d' rfl (fields _ rfl) fun value => value

/-! ## Numbers -/

/-- The number of an identifier is read back exactly, as long as no other digit follows. -/
theorem decimal_read (id : Ulid) (rest : List Char) (ends : NoDigit rest) :
    decimal.read.run (decimal.write id ++ rest) = .ok (id, rest) := by
  have fits : id.toNat ≤ UInt64.size * UInt64.size - 1 := Nat.le_pred_of_lt id.toNat_lt
  have digits := plainNumber_digits _ id.toNat fits rest ends
  have same : Ulid.ofNat id.toNat = id := congrArg Ulid.mk (Bytes.ofNat_toNat id.bytes)
  rw [decimal]
  dsimp only
  rw [run_bind_of_ok digits, same]
  rfl

/-- A numeric record goes on with its number. -/
theorem numericFields_id {id : Ulid} {rounds : Nat} {first : Bool} {text rest : List Char}
    (key : (hasMember first).run text = .ok (true, field "id" (decimal.write id) ++ rest))
    (ends : NoDigit rest) :
    (numericFields (rounds + 1) first none).run text =
      (numericFields rounds false (some id)).run rest := by
  have name (text : List Char) := string_plain "id" text (by simp [Plain])
  rw [field_append] at key
  rw [numericFields, run_bind_of_ok key, if_pos rfl, run_bind_of_ok (advance_cons _ _),
    run_bind_of_ok (name _), if_pos (beq_self_eq_true _)]
  dsimp only
  rw [if_neg (by simp), run_bind_of_ok (colon_cons _), run_bind_of_ok (decimal_read id rest ends)]

/-- A numeric record is read back. -/
theorem numeric_lawful (stored : Numeric) : numeric.LawfulAt stored := by
  intro rest
  obtain ⟨id⟩ := stored
  have written : numeric.write ⟨id⟩ ++ rest =
      '\x7b' :: (field "id" (decimal.write id) ++ '\x7d' :: rest) := by
    simp only [numeric, List.cons_append, List.append_assoc, List.nil_append]
  have opened (text : List Char) : numeric.read.run ('\x7b' :: text) =
      (within (numericFields · true none) >>= fun value =>
        close '\x7d' >>= fun _ => return value).run text := rfl
  have ends : NoDigit ('\x7d' :: rest) := by
    rintro char ⟨⟩
    decide
  have fields (text : List Char)
      (whole : text = field "id" (decimal.write id) ++ '\x7d' :: rest) :
      (within (numericFields · true none)).run text = .ok (⟨id⟩, '\x7d' :: rest) := by
    have long : 1 ≤ text.length := by
      rw [whole, field_append]
      exact Nat.succ_pos _
    obtain ⟨rounds, enough⟩ := Nat.exists_eq_add_of_le' long
    rw [within_run, enough,
      numericFields_id (by rw [whole, field_append, hasMember_first]) ends]
    rfl
  rw [written, opened]
  exact run_closed '\x7d' rfl (fields _ rfl) fun value => value

/-! ## Whole texts -/

/-- What is read as the whole of a text is read from its front, with only blanks behind. -/
theorem readAll_eq_ok_iff {reader : Reader α} {text : String} {value : α} :
    readAll reader text = .ok value ↔
      ∃ rest, reader.run text.toList = .ok (value, rest) ∧ rest.dropWhile isBlank = [] := by
  rw [readAll]
  constructor
  · intro read
    cases ran : reader.run text.toList with
    | error cause =>
      rw [ran] at read
      exact nomatch read
    | ok pair =>
      obtain ⟨found, rest⟩ := pair
      rw [ran] at read
      cases blank : rest.dropWhile isBlank with
      | nil =>
        simp only [bind, Except.bind, blank] at read
        obtain rfl : found = value := Except.ok.inj read
        exact ⟨rest, rfl, blank⟩
      | cons char more =>
        simp only [bind, Except.bind, blank] at read
        exact nomatch read
  · rintro ⟨rest, ran, blank⟩
    simp only [ran, bind, Except.bind, blank]
    rfl

/-- A form that is lawful at a value reads its text as the whole of a text. -/
theorem Form.LawfulAt.readAll {form : Form α} {value : α} (lawful : form.LawfulAt value) :
    Json.readAll form.read (String.ofList (form.write value)) = .ok value := by
  have read := lawful []
  rw [List.append_nil] at read
  rw [readAll_eq_ok_iff, String.toList_ofList]
  exact ⟨[], read, rfl⟩

/-! ## Identifiers in other cases -/

/-- Reads a text in quotes. -/
def quoted : Reader String := do
  match ← peekToken with
  | some '"' =>
    advance
    string
  | _ => throw .malformed

/-- A value of another kind is refused. -/
theorem fails_refuse (expected : String) (first : Char) :
    Fails (refuse expected first : Reader α) := by
  have kind (found : String) : Fails (refuseKind expected found : Reader α) := fails_throw _
  rw [refuse.eq_def]
  split
  · exact .bind fun _ => .bind fun _ => kind _
  · exact .bind fun _ => .bind fun _ => kind _
  · exact .bind fun _ => .bind fun _ => kind _
  · exact .bind fun _ => .bind fun _ => kind _
  · exact .bind fun _ => .bind fun _ => kind _
  · exact kind _
  · exact kind _
  · split
    · exact .bind fun _ => kind _
    · exact fails_throw _

/-- A text that is accepted is read strictly, and nothing more is taken off. -/
theorem parse_of_accept {content : String} {text rest : List Char} {id : Ulid}
    (accepted : (accept content).run text = .ok (id, rest)) :
    Ulid.parse .strict content = .ok id ∧ text = rest := by
  rw [accept] at accepted
  cases parsed : Ulid.parse .strict content with
  | error cause =>
    rw [parsed] at accepted
    exact nomatch accepted
  | ok found =>
    rw [parsed] at accepted
    obtain ⟨rfl, rfl⟩ := Prod.mk.inj (Except.ok.inj accepted)
    exact ⟨rfl, rfl⟩

/-- What is read as an identifier is a text in quotes that is read strictly. -/
theorem quoted_of_ulid {text rest : List Char} {id : Ulid}
    (read : ulid.read.run text = .ok (id, rest)) :
    ∃ content, quoted.run text = .ok (content, rest) ∧ Ulid.parse .strict content = .ok id := by
  rw [ulid] at read
  dsimp only at read
  obtain ⟨shown, middle, peeked, read⟩ := exists_of_run_bind read
  rw [quoted, run_bind_of_ok peeked]
  split at read
  · exact nomatch read
  · obtain ⟨_, behind, advanced, read⟩ := exists_of_run_bind read
    obtain ⟨content, last, body, read⟩ := exists_of_run_bind read
    obtain ⟨parsed, rfl⟩ := parse_of_accept read
    exact ⟨content, (run_bind_of_ok advanced).trans body, parsed⟩
  · exact absurd read (fails_refuse _ _ _ _ _)

end Json

namespace Shape

/-- The JSON text of a value of any shape is read back. -/
theorem json_lawful (shape : Shape) (value : shape.Value) : shape.json.LawfulAt value := by
  cases shape with
  | ulid => exact Json.ulid_lawful value
  | option => exact Json.parent_lawful value
  | list =>
    have lawful := fun id (_ : id ∈ value) => Json.parent_lawful id
    exact Json.list_lawful value lawful fun id _ => Json.parent_begins id
  | map => exact Json.map_lawful value
  | row => exact Json.row_lawful value
  | numeric => exact Json.numeric_lawful value

/-- The JSON text of a value of any shape is read as that value, so no identifier has the text of
none. A JSON text that is read as an identifier is a text in quotes, in whatever way it is escaped,
and the identifier is written as that text in upper case. -/
theorem json_texts :
    (∀ (shape : Shape) (value : shape.Value), shape.ofJson (shape.toJson value) = .ok value) ∧
    (∀ id : Ulid, option.toJson (some id) ≠ option.toJson none) ∧
    ∀ (text : String) (id : Ulid), ulid.ofJson text = .ok id →
      ∃ content, Json.readAll Json.quoted text = .ok content ∧
        ulid.toJson id = "\"" ++ content.toUpper ++ "\"" := by
  have round (shape : Shape) (value : shape.Value) :
      shape.ofJson (shape.toJson value) = .ok value :=
    (shape.json_lawful value).readAll
  refine ⟨round, fun id same => ?_, fun text id read => ?_⟩
  · have back := round option (some id)
    rw [same, round option none] at back
    exact nomatch back
  · obtain ⟨rest, ran, blank⟩ := Json.readAll_eq_ok_iff.mp read
    obtain ⟨content, quoted, parsed⟩ := Json.quoted_of_ulid ran
    refine ⟨content, Json.readAll_eq_ok_iff.mpr ⟨rest, quoted, blank⟩, ?_⟩
    rw [← Ulid.text_of_parse content id parsed, toJson, ← String.toList_inj]
    simp [Shape.json, Json.ulid, Json.quote]

end Shape

end SortableId
