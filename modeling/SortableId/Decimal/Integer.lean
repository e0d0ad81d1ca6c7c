/-!
# Integers in decimal

Plain readers: at least one digit, an optional sign where the type has one, nothing else, and no
value outside the type. A plus sign is always allowed. `padded` writes a number with leading zeros.
-/

namespace SortableId.Decimal

/-- The value of a row of digits, if it is one. -/
def digits? (text : List Char) : Option Nat :=
  if text.isEmpty || !text.all Char.isDigit then none
  else some (text.foldl (fun value char => 10 * value + (char.toNat - 48)) 0)

/-- The value of a row of digits after an optional plus sign. -/
def unsigned? : List Char → Option Nat
  | '+' :: text => digits? text
  | text => digits? text

/-- The value of a row of digits after an optional sign. -/
def signed? : List Char → Option Int
  | '-' :: text => (digits? text).map fun value => -(value : Int)
  | text => (unsigned? text).map Int.ofNat

/-- Reads an unsigned 64-bit integer. -/
def uint64? (text : String) : Option UInt64 :=
  (unsigned? text.toList).bind fun value =>
    if value < UInt64.size then some (UInt64.ofNat value) else none

/-- Reads a signed 64-bit integer. -/
def int64? (text : String) : Option Int64 :=
  (signed? text.toList).bind fun value =>
    if Int64.minValue.toInt ≤ value ∧ value ≤ Int64.maxValue.toInt then some (Int64.ofInt value)
    else none

/-- The digits of a number, with zeros before them up to a width. -/
def padded (width value : Nat) : String :=
  let digits := Nat.toDigits 10 value
  String.ofList (List.replicate (width - digits.length) '0' ++ digits)

end SortableId.Decimal
