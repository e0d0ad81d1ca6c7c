import SortableId.Ulid.Text

/-!
# Self-describing values

A format that says what it holds gives an identifier as text, as bytes, or as a list of integers.
Text is read strictly; a list must have sixteen items, each a byte. Items are read from the left,
one more after the sixteenth to see the list end, and none after that: the first problem counts.
-/

namespace SortableId

/-- A value of a format that says what it holds. -/
inductive Held where
  | text (text : String)
  | bytes (bytes : List UInt8)
  | list (items : List Int)
  | integer (value : Int)
  | boolean (value : Bool)
  | unit
  deriving DecidableEq, Repr

/-- Why a value is no identifier. -/
inductive VisitError where
  /-- Its text or bytes are none. -/
  | refused (cause : Error)
  /-- It is of another kind. -/
  | invalidType (found : String)
  /-- The list has the wrong length. -/
  | invalidLength (length : Nat)
  /-- An item of the list is no byte. -/
  | invalidItem (item : Int)
  deriving DecidableEq, Repr

/-- What a reader of identifiers says it expects. -/
def expectedUlid : String := "a Crockford base32 encoded string or 16 bytes"

/-- What a problem says to people. -/
def VisitError.message : VisitError → String
  | refused cause => cause.message
  | invalidType found => "invalid type: " ++ found ++ ", expected " ++ expectedUlid
  | invalidLength length =>
    "invalid length " ++ toString length ++ ", expected " ++ expectedUlid
  | invalidItem item => "invalid value: integer \x60" ++ toString item ++ "\x60, expected u8"

namespace Held

/-- An integer in a message. -/
def describeInteger (value : Int) : String := "integer \x60" ++ toString value ++ "\x60"

/-- A truth value in a message. -/
def describeBoolean (value : Bool) : String := "boolean \x60" ++ toString value ++ "\x60"

/-- An item as a byte. -/
def toByte (item : Int) : Except VisitError UInt8 :=
  if 0 ≤ item ∧ item ≤ 255 then .ok (UInt8.ofNat item.toNat) else .error (.invalidItem item)

/-- Takes the next item of a list as a byte: none at its end. The list is left without it. -/
def pull : List Int → Except VisitError (Option UInt8) × List Int
  | [] => (.ok none, [])
  | item :: rest => ((toByte item).map some, rest)

/-- Takes as many bytes as are wanted behind those taken before, one by one. -/
def pullBytes : Nat → List UInt8 → List Int → Except VisitError (List UInt8) × List Int
  | 0, taken, items => (.ok taken, items)
  | wanted + 1, taken, items =>
    match pull items with
    | (.error problem, rest) => (.error problem, rest)
    | (.ok none, rest) => (.error (.invalidLength taken.length), rest)
    | (.ok (some byte), rest) => pullBytes wanted (taken ++ [byte]) rest

/-- Reads an identifier from a list of integers, and shows the items that were not taken. -/
def visitList (items : List Int) : Except VisitError Ulid × List Int :=
  match pullBytes 16 [] items with
  | (.error problem, rest) => (.error problem, rest)
  | (.ok taken, rest) =>
    -- The list must end here, so one more item is asked for.
    match pull rest with
    | (.error problem, rest) => (.error problem, rest)
    | (.ok (some _), rest) => (.error (.invalidLength 17), rest)
    | (.ok none, rest) => ((Ulid.ofSlice taken).mapError .refused, rest)

/-- Reads an identifier. -/
def toUlid : Held → Except VisitError Ulid
  | text content => (Ulid.parse .strict content).mapError .refused
  | bytes content => (Ulid.ofSlice content).mapError .refused
  | list items => (visitList items).1
  | integer value => .error (.invalidType (describeInteger value))
  | boolean value => .error (.invalidType (describeBoolean value))
  | unit => .error (.invalidType "unit value")

end Held

end SortableId
