import SortableId.Decimal.Integer

/-!
# Time zones

A zone is UTC itself, or a place whose clocks differ from UTC by a fixed number of seconds. Zones
are set by a name followed by the distance that must be added to local time to reach UTC, so a
positive distance lies west; white space around a setting does not count.
-/

namespace SortableId

/-- A zone of constant offset. -/
inductive Zone where
  /-- Universal time. -/
  | utc
  /-- A zone this many seconds ahead of universal time. -/
  | offset (seconds : Int)
  deriving DecidableEq, Repr

namespace Zone

/-- How many seconds the clocks of a zone are ahead of universal time. -/
def ahead : Zone → Int
  | utc => 0
  | offset seconds => seconds

/-- The sign of an offset. -/
def sign (ahead : Int) : String := if ahead < 0 then "-" else "+"

/-- Hours and minutes of an offset. -/
def hoursMinutes (seconds : Nat) : String :=
  Decimal.padded 2 (seconds / 3600) ++ ":" ++ Decimal.padded 2 (seconds / 60 % 60)

/-- What stands for the zone in text: its name, or its offset to the second. -/
def name : Zone → String
  | utc => "UTC"
  | offset ahead =>
    let seconds := ahead.natAbs % 60
    sign ahead ++ hoursMinutes ahead.natAbs
      ++ if seconds = 0 then "" else ":" ++ Decimal.padded 2 seconds

/-- What marks the zone after a time: a letter for universal time, else the offset to the nearest
minute. -/
def mark (zone : Zone) : String :=
  if zone.ahead = 0 then "Z" else sign zone.ahead ++ hoursMinutes (zone.ahead.natAbs + 30)

/-- Reads parts of an hour: each after a colon and below sixty, the first in minutes. -/
def partsOfHour (unit : Nat) : List (List Char) → Option Nat
  | [] => some 0
  | part :: rest => do
    let value ← Decimal.digits? part
    if 60 ≤ value ∨ unit = 0 then none
    else return value * unit + (← partsOfHour (unit / 60) rest)

/-- Reads a distance in hours, minutes and seconds, below a day. -/
def distance? (text : List Char) : Option Nat :=
  match text.splitOn ':' with
  | [] => none
  | hours :: rest => do
    let hours ← Decimal.digits? hours
    if 24 ≤ hours then none else return hours * 3600 + (← partsOfHour 60 rest)

/-- Reads a distance with an optional sign. -/
def signedDistance? : List Char → Option Int
  | '-' :: text => (distance? text).map fun seconds => -(seconds : Int)
  | '+' :: text => (distance? text).map Int.ofNat
  | text => (distance? text).map Int.ofNat

/-- Whether the name of a zone has a usual length. -/
def hasNameLength (name : List Char) : Bool := decide (3 ≤ name.length ∧ name.length ≤ 7)

/-- Whether a character may stand in a name in angle brackets. -/
def inBrackets (char : Char) : Bool := char.isAlphanum || char == '+' || char == '-'

/-- What follows the name of a zone, which has three to seven characters: plain letters, or letters,
digits and signs in angle brackets. -/
def afterName? : List Char → Option (List Char)
  | '<' :: text =>
    let name := text.takeWhile (· != '>')
    match text.dropWhile (· != '>') with
    | _ :: rest => if hasNameLength name && name.all inBrackets then some rest else none
    | [] => none
  | text =>
    if hasNameLength (text.takeWhile Char.isAlpha) then some (text.dropWhile Char.isAlpha)
    else none

/-- Whether a character may stand around a setting. -/
def isPadding (char : Char) : Bool := char.isWhitespace || char == '\x0c'

/-- A setting without the characters that may stand around it. -/
def withoutPadding (text : List Char) : List Char :=
  ((text.dropWhile isPadding).reverse.dropWhile isPadding).reverse

/-- Reads the setting of a zone; one that cannot be read leaves the clocks at universal time. -/
def ofSetting (text : String) : Zone :=
  match (afterName? (withoutPadding text.toList)).bind signedDistance? with
  | some behind => offset (-behind)
  | none => offset 0

end Zone

end SortableId
