import SortableId.Text.Printable
import SortableId.Text.Extender

/-!
# Quoted text

Text in double quotes for messages. Quotes and backslashes get a backslash, four control characters
have a letter of their own, and every other character that does not print or that would attach to
its neighbour is written as its code point.
-/

namespace SortableId.Text

/-- A code point in lower-case hexadecimal digits between braces. -/
def codePoint (char : Char) : List Char :=
  ['\\', 'u', '\x7b'] ++ Nat.toDigits 16 char.toNat ++ ['\x7d']

/-- One character inside quotes. -/
def escape (char : Char) : List Char :=
  match char with
  | '\x00' => ['\\', '0']
  | '\t' => ['\\', 't']
  | '\r' => ['\\', 'r']
  | '\n' => ['\\', 'n']
  | '"' => ['\\', '"']
  | '\\' => ['\\', '\\']
  | _ => if isExtender char || !isPrintable char then codePoint char else [char]

/-- The text in double quotes. -/
def quoted (text : String) : String :=
  String.ofList ('"' :: text.toList.flatMap escape ++ ['"'])

end SortableId.Text
