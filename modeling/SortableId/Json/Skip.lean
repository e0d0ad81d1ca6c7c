import SortableId.Json.Quoted

/-!
# Skipping a value of JSON

The value of a field that nobody asked for is passed over. Its form must be right, but numbers may
be of any size and escaped surrogates need no partner. A number that the text cuts short is
malformed here.
-/

namespace SortableId.Json

/-- Takes at least one digit. -/
def someDigits : Reader Unit := do
  if (← digits).isEmpty then throw .malformed

/-- Passes over an exponent if its letter follows. -/
def skipExponent : Reader Unit := do
  match ← peek with
  | some 'e' | some 'E' =>
    advance
    let sign ← peek
    if sign == some '+' || sign == some '-' then advance
    someDigits
  | _ => return

/-- Passes over a number after its sign. -/
def skipNumber : Reader Unit := do
  let first ← peek
  let whole ← digits
  if whole.isEmpty || (first == some '0' && whole.length != 1) then throw .malformed
  if (← peek) == some '.' then
    advance
    someDigits
  skipExponent

/-- Passes over a string after its opening quote, within a number of rounds. -/
def skipStringBody : Nat → Reader Unit
  | 0 => throw .ended
  | rounds + 1 => do
    let char ← next
    if char == '"' then return
    else if char == '\\' then
      let letter ← next
      if letter == 'u' then discard codeUnit
      else if (letterEscape? letter).isNone then throw .malformed
      skipStringBody rounds
    else if char.toNat < 0x20 then throw .malformed
    else skipStringBody rounds

/-- Passes over a string after its opening quote. -/
def skipString : Reader Unit := fun text => (skipStringBody (text.length + 1)).run text

/-- Passes over the elements of a list after its opening bracket. -/
def skipElements (skip : Reader Unit) : Nat → Bool → Reader Unit
  | 0, _ => throw .ended
  | rounds + 1, first => do
    if ← hasElement first then
      skip
      skipElements skip rounds false

/-- Passes over the members of an object after its opening brace. -/
def skipMembers (skip : Reader Unit) : Nat → Bool → Reader Unit
  | 0, _ => throw .ended
  | rounds + 1, first => do
    if ← hasMember first then
      advance
      skipString
      colon
      skip
      skipMembers skip rounds false

/-- Passes over a value whose lists and objects nest less than a depth. -/
def skipWithin : Nat → Reader Unit
  | 0 => throw .ended
  | depth + 1 => do
    match ← peekToken with
    | none => throw .ended
    | some first =>
      match first with
      | 'n' => advance; word ['u', 'l', 'l']
      | 't' => advance; word ['r', 'u', 'e']
      | 'f' => advance; word ['a', 'l', 's', 'e']
      | '-' => advance; skipNumber
      | '"' => advance; skipString
      | '[' =>
        advance
        fun text => (skipElements (skipWithin depth) (text.length + 1) true).run text
        close ']'
      | '\x7b' =>
        advance
        fun text => (skipMembers (skipWithin depth) (text.length + 1) true).run text
        close '\x7d'
      | _ => if first.isDigit then skipNumber else throw .malformed

/-- Passes over a value; every level of nesting takes a character of the text. -/
def skip : Reader Unit := fun text => (skipWithin (text.length + 1)).run text

end SortableId.Json
