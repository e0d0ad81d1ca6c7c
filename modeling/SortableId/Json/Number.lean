import SortableId.Json.Reader

/-!
# Numbers of JSON

A number without fraction and exponent is an integer if 64 bits hold it. Every other number is read
in double precision from the digits that 64 bits hold and a power of ten: integer digits beyond
them only raise the power, fraction digits beyond them are ignored, and the power is applied by one
multiplication or division. A number too large for double precision is malformed.
-/

namespace SortableId.Json

/-- A number as read. -/
inductive Number where
  /-- An integer from zero up. -/
  | unsigned (value : UInt64)
  /-- An integer below zero. -/
  | negative (value : Int64)
  /-- Any other number, in double precision. -/
  | float (value : Float)

/-- The largest significand. -/
def maxSignificand : Nat := UInt64.size - 1

/-- The largest exponent that is read exactly. -/
def maxExponent : Nat := 0x7FFFFFFF

/-- The value of a digit. -/
def digitValue (char : Char) : Nat := char.toNat - '0'.toNat

/-- Appends digits to a number as long as it stays within a limit, and leaves the other digits. -/
def appendDigits (limit : Nat) : Nat → List Char → Nat × List Char
  | value, [] => (value, [])
  | value, digit :: rest =>
    let longer := value * 10 + digitValue digit
    if limit < longer then (value, digit :: rest) else appendDigits limit longer rest

/-- Applies a power of ten of any size to a number in double precision. -/
def scaleFloat : Nat → Float → Int → Except Problem Float
  | 0, value, _ => .ok value
  | rounds + 1, value, exponent =>
    if exponent.natAbs ≤ 308 then
      let power := Float.ofScientific 1 false exponent.natAbs
      if 0 ≤ exponent then
        let scaled := value * power
        if scaled.isInf then .error .malformed else .ok scaled
      else .ok (value / power)
    else if value == 0 then .ok value
    else if 0 ≤ exponent then .error .malformed
    else scaleFloat rounds (value / Float.ofScientific 1 false 308) (exponent + 308)

/-- A number in double precision from its significand and power of ten. After five divisions by
the largest power nothing is left of a significand. -/
def floatOfParts (negative : Bool) (significand : Nat) (exponent : Int) :
    Except Problem Number := do
  let value ← scaleFloat 5 (UInt64.ofNat significand).toFloat exponent
  return .float (if negative then -value else value)

/-- Reads an exponent after its letter. -/
def exponent (negative : Bool) (significand : Nat) (start : Int) : Reader Number := do
  let sign ← peek
  if sign == some '+' || sign == some '-' then advance
  let first ← next
  if !first.isDigit then throw .malformed
  let (value, beyond) := appendDigits maxExponent 0 (first :: (← digits))
  if beyond.isEmpty then
    let signed : Int := if sign == some '-' then -(value : Int) else value
    floatOfParts negative significand (start + signed)
  else if significand != 0 && sign != some '-' then throw .malformed
  else return .float (if negative then -0.0 else 0.0)

/-- Goes on with an exponent if its letter follows. -/
def exponentOrEnd (negative : Bool) (significand : Nat) (start : Int) : Reader Number := do
  match ← peek with
  | some 'e' | some 'E' =>
    advance
    exponent negative significand start
  | _ => floatOfParts negative significand start

/-- Reads a fraction after its point. -/
def fraction (negative : Bool) (significand : Nat) (start : Int) : Reader Number := do
  let found ← digits
  if found.isEmpty then
    match ← peek with
    | some _ => throw .malformed
    | none => throw .ended
  let (longer, beyond) := appendDigits maxSignificand significand found
  exponentOrEnd negative longer (start - (found.length - beyond.length : Nat))

/-- An integer whose digits 64 bits hold. Below zero it needs 63 bits; otherwise, and for a zero
with a sign, it is in double precision. -/
def integer (negative : Bool) (significand : Nat) : Number :=
  let value := UInt64.ofNat significand
  if negative then
    let opposite := -value.toInt64
    if 0 ≤ opposite then .float (-value.toFloat) else .negative opposite
  else .unsigned value

/-- Reads a number after its sign. -/
def number (negative : Bool) : Reader Number := do
  let first ← next
  if !first.isDigit then throw .malformed
  let more ← digits
  if first == '0' && !more.isEmpty then throw .malformed
  let (significand, beyond) := appendDigits maxSignificand 0 (first :: more)
  match ← peek with
  | some '.' =>
    advance
    fraction negative significand beyond.length
  | some 'e' | some 'E' =>
    advance
    exponent negative significand beyond.length
  | _ =>
    if beyond.isEmpty then return integer negative significand
    else floatOfParts negative significand beyond.length

/-- Reads a number of at most a limit, written with digits alone; anything else is malformed. -/
def plainNumber (limit : Nat) : Reader Nat := do
  match ← peekToken with
  | none => throw .ended
  | some first =>
    if !first.isDigit then throw .malformed
    let found ← digits
    if first == '0' && found.length != 1 then throw .malformed
    let value := found.foldl (fun value digit => value * 10 + digitValue digit) 0
    if limit < value then throw .malformed
    return value

end SortableId.Json
