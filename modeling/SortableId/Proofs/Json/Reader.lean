import Mathlib
import SortableId.Json.Number
import SortableId.Json.Quoted

/-!
# What readers take off a text

Each reader of a part of JSON takes exactly the text of that part off the front and leaves what is
behind it. A plain string is taken up to its closing quote, and the decimal digits of a number as
long as no other digit follows. `Fails` is said of readers that give no value for any text.
-/

namespace SortableId.Json

variable {α β : Type}

/-- Going on from what a reader gives. -/
theorem run_bind_of_ok {reader : Reader α} {next : α → Reader β} {text rest : List Char}
    {value : α} (read : reader.run text = .ok (value, rest)) :
    (reader >>= next).run text = (next value).run rest := by
  rw [StateT.run_bind, read]
  rfl

/-- A sequence that gives a value has a first reader that gives one, and goes on from it. -/
theorem exists_of_run_bind {reader : Reader α} {next : α → Reader β} {text rest : List Char}
    {result : β} (read : (reader >>= next).run text = .ok (result, rest)) :
    ∃ value middle, reader.run text = .ok (value, middle) ∧
      (next value).run middle = .ok (result, rest) := by
  rw [StateT.run_bind] at read
  cases first : reader.run text with
  | error cause =>
    rw [first] at read
    exact nomatch read
  | ok pair =>
    rw [first] at read
    exact ⟨pair.1, pair.2, rfl, read⟩

/-- A reader that is given one round more than the text has characters. -/
def within (reader : Nat → Reader α) : Reader α := fun text => (reader (text.length + 1)).run text

/-- How many rounds that is. -/
theorem within_run (reader : Nat → Reader α) (text : List Char) :
    (within reader).run text = (reader (text.length + 1)).run text := rfl

/-! ## Readers without a value -/

/-- A reader that gives no value. -/
def Fails (reader : Reader α) : Prop := ∀ text value rest, reader.run text ≠ .ok (value, rest)

/-- A problem is no value. -/
theorem fails_throw (cause : Problem) : Fails (throw cause : Reader α) := nofun

/-- A sequence gives no value if what it goes on with gives none. -/
theorem Fails.bind {reader : Reader α} {next : α → Reader β} (fails : ∀ value, Fails (next value)) :
    Fails (reader >>= next) := by
  intro text result rest read
  obtain ⟨value, middle, -, ended⟩ := exists_of_run_bind read
  exact fails value middle result rest ended

/-! ## Tokens -/

/-- A text that begins with a token, which is not one certain character. -/
def Begins (text : List Char) (other : Char) : Prop :=
  ∃ first rest, text = first :: rest ∧ isBlank first = false ∧ first ≠ other

/-- More behind does not change how a text begins. -/
theorem Begins.append {text : List Char} {other : Char} (begins : Begins text other)
    (more : List Char) : Begins (text ++ more) other := by
  obtain ⟨first, rest, rfl, token, differs⟩ := begins
  exact ⟨first, rest ++ more, rfl, token, differs⟩

/-- A token is shown and stays. -/
theorem peekToken_cons (first : Char) (rest : List Char) (token : isBlank first = false) :
    peekToken.run (first :: rest) = .ok (some first, first :: rest) := by
  have kept : (first :: rest).dropWhile isBlank = first :: rest :=
    List.dropWhile_cons_of_neg (by rw [token]; exact Bool.false_ne_true)
  change Except.ok
    (((first :: rest).dropWhile isBlank).head?, (first :: rest).dropWhile isBlank) = _
  rw [kept]
  rfl

/-- The next character is taken off. -/
theorem advance_cons (first : Char) (rest : List Char) :
    advance.run (first :: rest) = .ok ((), rest) := rfl

/-- A colon is taken off. -/
theorem colon_cons (rest : List Char) : colon.run (':' :: rest) = .ok ((), rest) := rfl

/-- A list whose bracket does not close has a first element. -/
theorem hasElement_first (text : List Char) (begins : Begins text ']') :
    (hasElement true).run text = .ok (true, text) := by
  obtain ⟨first, rest, rfl, token, open_⟩ := begins
  rw [hasElement, run_bind_of_ok (peekToken_cons first rest token)]
  split
  · contradiction
  · simp_all
  · rfl

/-- After a comma a list has another element. -/
theorem hasElement_next (text : List Char) (begins : Begins text ']') :
    (hasElement false).run (',' :: text) = .ok (true, text) := by
  obtain ⟨first, rest, rfl, token, other⟩ := begins
  rw [hasElement, run_bind_of_ok (peekToken_cons ',' _ rfl)]
  split
  · contradiction
  · rename_i closed
    exact absurd closed (by decide)
  · rename_i comma _ shown
    obtain rfl : ',' = comma := Option.some.inj shown
    simp only [Bool.false_eq_true, ↓reduceIte, bne_self_eq_false,
      run_bind_of_ok (advance_cons ',' _), run_bind_of_ok (peekToken_cons first rest token)]
    rfl

/-- An object that begins with a quote has a first member. -/
theorem hasMember_first (rest : List Char) :
    (hasMember true).run ('"' :: rest) = .ok (true, '"' :: rest) := rfl

/-- After a comma and a quote an object has another member. -/
theorem hasMember_next (rest : List Char) :
    (hasMember false).run (',' :: '"' :: rest) = .ok (true, '"' :: rest) := rfl

/-- What is read up to a closing character is finished behind it. -/
theorem run_closed {reader : Reader α} {text rest : List Char} {value : α} (closing : Char)
    (token : isBlank closing = false) (read : reader.run text = .ok (value, closing :: rest))
    (finish : α → β) :
    (reader >>= fun value => close closing >>= fun _ => return finish value).run text =
      .ok (finish value, rest) := by
  have closed : (close closing).run (closing :: rest) = .ok ((), rest) := by
    rw [close, run_bind_of_ok (peekToken_cons closing rest token)]
    dsimp only
    rw [if_pos (beq_self_eq_true closing), advance_cons]
  rw [run_bind_of_ok read, run_bind_of_ok closed]
  rfl

/-! ## Strings -/

/-- A character that stands for itself in a string. -/
def Plain (char : Char) : Prop := char ≠ '"' ∧ char ≠ '\\' ∧ 0x20 ≤ char.toNat

instance : DecidablePred Plain := fun _ => inferInstanceAs (Decidable (_ ∧ _))

/-- Plain characters are taken up to the closing quote. -/
theorem stringBody_plain (chars rest : List Char) (plain : ∀ char ∈ chars, Plain char)
    (rounds : Nat) (enough : chars.length < rounds) :
    (stringBody rounds).run (chars ++ '"' :: rest) = .ok (chars, rest) := by
  induction chars generalizing rounds with
  | nil =>
    obtain ⟨rounds, rfl⟩ := Nat.exists_eq_succ_of_ne_zero (Nat.ne_of_gt enough)
    rfl
  | cons char chars ih =>
    obtain ⟨rounds, rfl⟩ := Nat.exists_eq_succ_of_ne_zero (Nat.ne_of_gt (Nat.zero_lt_of_lt enough))
    obtain ⟨⟨quote, escape, printable⟩, plain⟩ := List.forall_mem_cons.mp plain
    have taken : next.run (char :: (chars ++ '"' :: rest)) = .ok (char, chars ++ '"' :: rest) := rfl
    have others := ih plain rounds (Nat.lt_of_succ_lt_succ enough)
    rw [List.cons_append, stringBody, run_bind_of_ok taken, if_neg (by simpa using quote),
      if_neg (by simpa using escape), if_neg (Nat.not_lt_of_le printable), run_bind_of_ok others]
    rfl

/-- A plain text is taken up to the closing quote. -/
theorem string_plain (text : String) (rest : List Char)
    (plain : ∀ char ∈ text.toList, Plain char) :
    string.run (text.toList ++ '"' :: rest) = .ok (text, rest) := by
  have enough : text.toList.length < (text.toList ++ '"' :: rest).length + 1 := by
    rw [List.length_append]
    omega
  have body := stringBody_plain text.toList rest plain _ enough
  change Except.map _ ((stringBody _).run _) = _
  rw [body, Except.map]
  dsimp only
  rw [String.ofList_toList]

/-! ## Numbers -/

/-- A text that does not go on with a digit. -/
def NoDigit (text : List Char) : Prop := ∀ char ∈ text.head?, char.isDigit = false

/-- A digit is no blank. -/
theorem isBlank_of_isDigit (char : Char) (digit : char.isDigit = true) : isBlank char = false := by
  rw [isBlank, ← Bool.not_eq_true]
  intro blank
  simp only [Bool.or_eq_true, beq_iff_eq] at blank
  rcases blank with ((rfl | rfl) | rfl) | rfl <;> exact absurd digit (by decide)

/-- Digits are taken off as long as no other digit follows. -/
theorem digits_append (front rest : List Char) (all : ∀ char ∈ front, char.isDigit = true)
    (ends : NoDigit rest) : digits.run (front ++ rest) = .ok (front, rest) := by
  have behind : rest.takeWhile Char.isDigit = [] ∧ rest.dropWhile Char.isDigit = rest := by
    cases rest with
    | nil => exact ⟨rfl, rfl⟩
    | cons char rest =>
      have other : ¬ char.isDigit = true := by rw [ends char rfl]; exact Bool.false_ne_true
      rw [List.takeWhile_cons_of_neg other, List.dropWhile_cons_of_neg other]
      exact ⟨rfl, rfl⟩
  change Except.ok ((front ++ rest).takeWhile _, (front ++ rest).dropWhile _) = _
  rw [List.takeWhile_append_of_pos all, List.dropWhile_append_of_pos all, behind.1, behind.2,
    List.append_nil]

/-- Only zero is written with a leading zero. -/
theorem eq_zero_of_leading_zero (value : Nat) (rest : List Char)
    (written : Nat.toDigits 10 value = '0' :: rest) : value = 0 := by
  have single : ∀ value < 10, Nat.digitChar value = '0' → value = 0 := by decide
  induction value using Nat.strong_induction_on generalizing rest with
  | _ value ih =>
    by_cases small : value < 10
    · rw [Nat.toDigits_of_lt_base small] at written
      exact single value small (List.cons.inj written).1
    · have large := Nat.le_of_not_lt small
      rw [Nat.toDigits_of_base_le (by decide) large] at written
      cases front : Nat.toDigits 10 (value / 10) with
      | nil => exact absurd front Nat.toDigits_ne_nil
      | cons first more =>
        rw [front, List.cons_append] at written
        obtain rfl : first = '0' := (List.cons.inj written).1
        have zero := ih (value / 10) (by omega) more front
        omega

/-- The decimal digits of a number denote it. -/
theorem foldl_toDigits (value : Nat) :
    (Nat.toDigits 10 value).foldl (fun value digit => value * 10 + digitValue digit) 0 = value := by
  have denoted := @Nat.ofDigitChars_ten_toDigits value
  rw [Nat.ofDigitChars_eq_foldl] at denoted
  simpa only [digitValue, Nat.mul_comm] using denoted

/-- A number within the limit is taken off, as long as no other digit follows. -/
theorem plainNumber_digits (limit value : Nat) (fits : value ≤ limit) (rest : List Char)
    (ends : NoDigit rest) :
    (plainNumber limit).run (Nat.toDigits 10 value ++ rest) = .ok (value, rest) := by
  have all : ∀ char ∈ Nat.toDigits 10 value, char.isDigit = true := fun char mem =>
    Nat.isDigit_of_mem_toDigits (by decide) (by decide) mem
  have denoted := foldl_toDigits value
  have leading := eq_zero_of_leading_zero value
  cases written : Nat.toDigits 10 value with
  | nil => exact absurd written Nat.toDigits_ne_nil
  | cons first more =>
    rw [written] at all denoted
    have digit := all first List.mem_cons_self
    have single : ¬ (first == '0' && (first :: more).length != 1) = true := by
      rw [Bool.and_eq_true, beq_iff_eq, bne_iff_ne]
      rintro ⟨rfl, longer⟩
      obtain rfl := leading more written
      exact longer (congrArg List.length written).symm
    have shown := peekToken_cons first (more ++ rest) (isBlank_of_isDigit first digit)
    rw [plainNumber, List.cons_append, run_bind_of_ok shown]
    dsimp only
    rw [if_neg (by simp [digit]), ← List.cons_append,
      run_bind_of_ok (digits_append _ rest all ends), if_neg single, denoted,
      if_neg (Nat.not_lt_of_le fits)]
    rfl

end SortableId.Json
