import SortableId.Json.Reader

/-!
# Strings of JSON

Reading a string after its opening quote. Control characters must be escaped. An escape by code
unit gives a character of the basic plane, and two in a row a character beyond it: a leading
surrogate must be followed by a trailing one, and no trailing one may stand alone.
-/

namespace SortableId.Json

/-- The value of a hexadecimal digit. -/
def hexDigit? (char : Char) : Option Nat :=
  if char.isDigit then some (char.toNat - '0'.toNat)
  else if 'a' ≤ char ∧ char ≤ 'f' then some (char.toNat - 'a'.toNat + 10)
  else if 'A' ≤ char ∧ char ≤ 'F' then some (char.toNat - 'A'.toNat + 10)
  else none

/-- Takes four hexadecimal digits; a text of less than four bytes ends inside them. -/
def codeUnit : Reader Nat := fun text =>
  let front := text.take 4
  if (String.ofList front).utf8ByteSize < 4 then .error .ended
  else
    match front.mapM hexDigit? with
    | some [a, b, c, d] => .ok (((a * 16 + b) * 16 + c) * 16 + d, text.drop 4)
    | _ => .error .malformed

/-- Whether a code unit is the first half of a pair. -/
def isLeading (unit : Nat) : Bool := decide (0xD800 ≤ unit ∧ unit ≤ 0xDBFF)

/-- Whether a code unit is the second half of a pair. -/
def isTrailing (unit : Nat) : Bool := decide (0xDC00 ≤ unit ∧ unit ≤ 0xDFFF)

/-- The character of an escape by code units, after its first letter. -/
def codeUnits : Reader Char := do
  let unit ← codeUnit
  if isTrailing unit then throw .malformed
  if isLeading unit then
    if (← next) != '\\' then throw .malformed
    if (← next) != 'u' then throw .malformed
    let second ← codeUnit
    if !isTrailing second then throw .malformed
    return Char.ofNat ((unit - 0xD800) * 0x400 + (second - 0xDC00) + 0x10000)
  return Char.ofNat unit

/-- The character of an escape with one letter. -/
def letterEscape? (letter : Char) : Option Char :=
  match letter with
  | '"' => some '"'
  | '\\' => some '\\'
  | '/' => some '/'
  | 'b' => some '\x08'
  | 'f' => some '\x0c'
  | 'n' => some '\n'
  | 'r' => some '\r'
  | 't' => some '\t'
  | _ => none

/-- The character of an escape, after its backslash. -/
def escaped : Reader Char := do
  let letter ← next
  if letter == 'u' then codeUnits
  else match letterEscape? letter with
    | some char => return char
    | none => throw .malformed

/-- The characters up to the closing quote, within a number of rounds. -/
def stringBody : Nat → Reader (List Char)
  | 0 => throw .ended
  | rounds + 1 => do
    let char ← next
    if char == '"' then return []
    else if char == '\\' then
      let char ← escaped
      return char :: (← stringBody rounds)
    else if char.toNat < 0x20 then throw .malformed
    else return char :: (← stringBody rounds)

/-- Reads a string after its opening quote; each round takes a character of the text. -/
def string : Reader String := fun text =>
  (stringBody (text.length + 1)).run text |>.map fun (chars, rest) => (String.ofList chars, rest)

end SortableId.Json
