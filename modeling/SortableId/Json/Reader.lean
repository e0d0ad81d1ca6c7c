/-!
# Reading JSON text

A reader takes characters off the front of a text and gives a value or a problem. Problems are of
three classes: the text is not JSON, it ends inside a value, or it is JSON but refused with a
message. The first problem from left to right is the one reported.
-/

namespace SortableId.Json

/-- Why a text gives no value. -/
inductive Problem where
  /-- It is not JSON. -/
  | malformed
  /-- It ends inside a value. -/
  | ended
  /-- It holds a value of the wrong kind or content. -/
  | refused (message : String)
  deriving DecidableEq, Repr

/-- A reader from the front of a text. -/
abbrev Reader (α : Type) := StateT (List Char) (Except Problem) α

/-- Whether a character may stand between tokens. -/
def isBlank (char : Char) : Bool := char == ' ' || char == '\n' || char == '\t' || char == '\r'

/-- The next character, which stays. -/
def peek : Reader (Option Char) := fun text => .ok (text.head?, text)

/-- Takes the next character off. -/
def advance : Reader Unit := fun text => .ok ((), text.tail)

/-- Takes the next character, which must exist. -/
def next : Reader Char
  | [] => .error .ended
  | char :: rest => .ok (char, rest)

/-- Takes blanks off, then shows the next character, which stays. -/
def peekToken : Reader (Option Char) := fun text =>
  let rest := text.dropWhile isBlank
  .ok (rest.head?, rest)

/-- Takes digits off the front. -/
def digits : Reader (List Char) := fun text =>
  .ok (text.takeWhile Char.isDigit, text.dropWhile Char.isDigit)

/-- Takes the rest of a word whose first letter was taken. -/
def word (rest : List Char) : Reader Unit :=
  rest.forM fun expected => do
    if (← next) != expected then throw .malformed

/-- Whether a list goes on, after its opening bracket or after an element. -/
def hasElement (first : Bool) : Reader Bool := do
  match ← peekToken with
  | none => throw .ended
  | some ']' => return false
  | some char =>
    if first then return true
    if char != ',' then throw .malformed
    advance
    match ← peekToken with
    | none => throw .ended
    | some ']' => throw .malformed
    | some _ => return true

/-- Whether an object goes on, after its opening brace or after a member; a key must follow. -/
def hasMember (first : Bool) : Reader Bool := do
  match ← peekToken with
  | none => throw .ended
  | some '\x7d' => return false
  | some char =>
    if first then
      if char == '"' then return true else throw .malformed
    if char != ',' then throw .malformed
    advance
    match ← peekToken with
    | none => throw .ended
    | some '"' => return true
    | some _ => throw .malformed

/-- Takes the closing character of a list or an object. -/
def close (closing : Char) : Reader Unit := do
  match ← peekToken with
  | none => throw .ended
  | some char => if char == closing then advance else throw .malformed

/-- Takes the colon after a key. -/
def colon : Reader Unit := do
  match ← peekToken with
  | none => throw .ended
  | some char => if char == ':' then advance else throw .malformed

/-- Reads a whole text, which may have blanks around its value. -/
def readAll {α : Type} (reader : Reader α) (text : String) : Except Problem α := do
  let (value, rest) ← reader.run text.toList
  match rest.dropWhile isBlank with
  | [] => return value
  | _ => throw .malformed

end SortableId.Json
