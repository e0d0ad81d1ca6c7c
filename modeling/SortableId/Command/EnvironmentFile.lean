import SortableId.Command.Environment
import SortableId.Text.Blank
import SortableId.Text.Alphanumeric

/-!
# Environment files

A file of definitions, one `NAME=value` a line, with comments, quotes, escapes and the values of
other variables. `statements` splits the file: a quoted value may run over several lines.
`definition?` reads one statement and does not know any variable; `Environment.withFile` replaces
the references. The first statement that is malformed ends the file, and what stands before it
holds; a value that no variable can hold spoils the whole environment.
-/

namespace SortableId.Command

/-- A piece of a value. -/
inductive Piece where
  /-- A character that stands for itself. -/
  | literal (char : Char)
  /-- What a reference to a variable stands for, nothing if no variable fits. -/
  | valueOf (reference : List Char)
  deriving DecidableEq, Repr

/-- A variable and the pieces of its value. -/
structure Definition where
  /-- The name of the variable. -/
  name : List Char
  /-- The value. -/
  value : List Piece
  deriving DecidableEq, Repr

namespace EnvironmentFile

/-! ## Statements -/

/-- Where in a statement a reader stands that looks for its end. -/
inductive Position where
  /-- Outside quotes. -/
  | plain
  /-- After a backslash outside quotes. -/
  | escape
  /-- In single quotes. -/
  | strong
  /-- After a backslash in single quotes. -/
  | strongEscape
  /-- In double quotes. -/
  | weak
  /-- After a backslash in double quotes. -/
  | weakEscape
  /-- After a blank outside quotes. -/
  | blank
  deriving DecidableEq, Repr

/-- The position after a character outside quotes and after no blank. -/
def Position.opened : Char → Position
  | '\\' => escape
  | '"' => weak
  | '\'' => strong
  | _ => plain

/-- The position after a character. -/
def Position.next (position : Position) (char : Char) : Position :=
  match position with
  | plain =>
    if Text.isBlank char && char != '\n' && char != '\r' then blank else opened char
  | blank => opened char
  | escape => plain
  | strong => if char = '\\' then strongEscape else if char = '\'' then plain else strong
  | strongEscape => strong
  | weak => if char = '\\' then weakEscape else if char = '"' then plain else weak
  | weakEscape => weak

/-- The position at the end of a line, or the part of the line before a comment. -/
def scan : Position → List Char → Position ⊕ List Char
  | position, [] => .inl position
  | position, char :: rest =>
    if position = .blank ∧ char = '#' then .inr []
    else (scan (position.next char) rest).map id (char :: ·)

/-- The lines of a text, each with its line feed. -/
def lines : List Char → List (List Char)
  | [] => []
  | '\n' :: rest => ['\n'] :: lines rest
  | char :: rest =>
    match lines rest with
    | line :: others => (char :: line) :: others
    | [] => [[char]]

/-- A statement without the end of its last line. -/
def withoutLineEnd (text : List Char) : List Char :=
  match text.reverse with
  | '\n' :: '\r' :: rest => rest.reverse
  | '\n' :: rest => rest.reverse
  | _ => text

/-- The statements of a file, as far as they end: `held` is the part of the current one on the lines
before. -/
def statementsFrom (held : List Char) (position : Position) : List (List Char) → List (List Char)
  | [] => []
  | line :: rest =>
    let text := held ++ line
    if (Text.trimStart text).head? = some '#' then [] :: statementsFrom [] .plain rest
    else
      match scan position line with
      | .inl .plain => withoutLineEnd text :: statementsFrom [] .plain rest
      | .inl position => statementsFrom text position rest
      | .inr before => (held ++ before) :: statementsFrom [] .plain rest

/-- The statements of a file. -/
def statements (text : List Char) : List (List Char) := statementsFrom [] .plain (lines text)

/-! ## Values -/

/-- Whether a reference to a variable is open. -/
inductive Reference where
  /-- None is. -/
  | closed
  /-- One that ends before the first character that is no letter or numeral. -/
  | bare
  /-- One that ends at a brace. -/
  | braced
  deriving DecidableEq, Repr

/-- The state of a reader of values. -/
structure ValueReader where
  /-- In single quotes. -/
  strong : Bool := false
  /-- In double quotes. -/
  weak : Bool := false
  /-- After a backslash. -/
  escaped : Bool := false
  /-- After a blank outside quotes: only blanks and a comment may follow. -/
  ended : Bool := false
  /-- The open reference. -/
  reference : Reference := .closed
  /-- The name in the open reference, latest character first. -/
  name : List Char := []
  /-- The pieces read, latest first. -/
  pieces : List Piece := []
  deriving DecidableEq, Repr

namespace ValueReader

/-- Adds a character. -/
def push (char : Char) (reader : ValueReader) : ValueReader :=
  { reader with pieces := .literal char :: reader.pieces }

/-- Ends the open reference, and leaves another one open or none. -/
def endReference (reference : Reference) (reader : ValueReader) : ValueReader :=
  { reader with reference, name := [], pieces := .valueOf reader.name.reverse :: reader.pieces }

/-- The character that an escape stands for. -/
def unescape : Char → Option Char
  | '\\' => some '\\'
  | '\'' => some '\''
  | '"' => some '"'
  | '$' => some '$'
  | ' ' => some ' '
  | 'n' => some '\n'
  | _ => none

/-- A character in an open reference. -/
def refer (char : Char) (reader : ValueReader) : ValueReader :=
  if Text.isAlphanumeric char then { reader with name := char :: reader.name }
  else if reader.reference = .braced then
    if char = '\x7d' then reader.endReference .closed
    else { reader with name := char :: reader.name }
  else if char = '\x7b' ∧ reader.name = [] then { reader with reference := .braced }
  else if char = '$' then reader.endReference .bare
  else (reader.endReference .closed).push char

/-- A character outside references and single quotes that is not escaped. -/
def plain (char : Char) (reader : ValueReader) : ValueReader :=
  if char = '$' then { reader with reference := .bare }
  else if char = '\\' then { reader with escaped := true }
  else if reader.weak then
    if char = '"' then { reader with weak := false } else reader.push char
  else if char = '\'' then { reader with strong := true }
  else if char = '"' then { reader with weak := true }
  else if char = ' ' ∨ char = '\t' then { reader with ended := true }
  else reader.push char

/-- One character before the end of the value, if it is allowed there. -/
def next (char : Char) (reader : ValueReader) : Option ValueReader :=
  if reader.escaped then
    (unescape char).map fun char => { reader with escaped := false }.push char
  else if reader.strong then
    some (if char = '\'' then { reader with strong := false } else reader.push char)
  else if reader.reference = .closed then some (reader.plain char)
  else some (reader.refer char)

/-- The pieces of a value that may end here. -/
def finish (reader : ValueReader) : Option (List Piece) :=
  if reader.reference = .braced ∨ reader.strong ∨ reader.weak then none
  else if reader.reference = .closed then some reader.pieces.reverse
  else some (reader.endReference .closed).pieces.reverse

/-- Reads the rest of a value, up to its end or a comment. -/
def read (reader : ValueReader) : List Char → Option (List Piece)
  | [] => reader.finish
  | char :: rest =>
    if reader.ended then
      if char = ' ' ∨ char = '\t' then reader.read rest
      else if char = '#' then reader.finish
      else none
    else (reader.next char).bind fun reader => reader.read rest

end ValueReader

/-! ## Definitions -/

/-- Whether a name may start with this. -/
def startsName (char : Char) : Bool := char.isAlpha || char = '_'

/-- Whether a name may go on with this. -/
def inName (char : Char) : Bool := char.isAlphanum || char = '_' || char = '.'

/-- A name at the start of a text, and the text after it and the white space that follows. -/
def name? (text : List Char) : Option (List Char × List Char) :=
  if text.head?.any startsName then
    some (text.takeWhile inName, Text.trimStart (text.dropWhile inName))
  else none

/-- A name and the text after its equals sign; the word `export` may stand before it. -/
def nameAndValue? (text : List Char) : Option (List Char × List Char) := do
  match ← name? text with
  | (name, '=' :: value) => return (name, value)
  | (name, rest) =>
    if name ≠ "export".toList then none
    match ← name? rest with
    | (name, '=' :: value) => return (name, value)
    | _ => none

/-- Whether nothing but a comment is left. -/
def isOver (text : List Char) : Bool := text.isEmpty || text.head? = some '#'

/-- A definition: its name, an equals sign, its value. -/
def definition? (text : List Char) : Option Definition := do
  let (name, value) ← nameAndValue? text
  let value := Text.trimStart value
  if isOver value then return ⟨name, []⟩ else return ⟨name, ← ({} : ValueReader).read value⟩

/-- The definitions of some statements, up to the first that is malformed. -/
def definitionsOf : List (List Char) → List Definition
  | [] => []
  | statement :: rest =>
    let text := Text.trimStart (Text.trimEnd statement)
    if isOver text then definitionsOf rest
    else
      match definition? text with
      | some definition => definition :: definitionsOf rest
      | none => []

/-- The definitions of a file, which may start with a byte order mark. -/
def definitions (text : String) : List Definition :=
  match text.toList with
  | '\uFEFF' :: text => definitionsOf (statements text)
  | text => definitionsOf (statements text)

/-- The variables that a file names. -/
def names (text : String) : List String :=
  ((definitions text).flatMap fun definition =>
    definition.name :: definition.value.filterMap fun
      | .literal _ => none
      | .valueOf reference => some (reference.takeWhile (· != '='))).map String.ofList

end EnvironmentFile

namespace Environment

/-- The text of a piece. -/
def expand (environment : Environment) : Piece → String
  | .literal char => char.toString
  | .valueOf reference => (environment.resolve? reference).getD ""

/-- Makes a definition, with the values that its references have by now; nothing if it is to set a
variable to a value that no variable can hold. -/
def make (environment : Environment) (definition : Definition) : Option Environment :=
  let name := String.ofList definition.name
  let value := String.join (definition.value.map environment.expand)
  if (environment.get? name).isSome || canHold value then some (environment.define name value)
  else none

/-- Makes the definitions of a file in order, if all can be made. -/
def withFile (text : String) (environment : Environment) : Option Environment :=
  (EnvironmentFile.definitions text).foldlM make environment

end Environment

end SortableId.Command
