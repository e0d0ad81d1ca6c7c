/-!
# The fewest digits of a binary number

A floating-point number stands for all reals that round to it. Its shortest decimal is the number
with the fewest digits among those reals, and of the numbers with that many digits the nearest; an
exact tie goes to the even digit. The search takes the number of digits one after another and tests
the two neighbours of the exact value on that decimal grid in whole numbers.
-/

namespace SortableId.Decimal

/-- A number above zero as `digits * 10 ^ exponent`. -/
structure Scaled where
  /-- The digits as a number. -/
  digits : Nat
  /-- The power of ten of the last digit. -/
  exponent : Int
  deriving DecidableEq, Repr

/-- A number above zero as `mantissa * 2 ^ exponent`, with the interval that rounds to it. -/
structure Dyadic where
  /-- The significant bits. -/
  mantissa : Nat
  /-- The power of two of the last bit. -/
  exponent : Int
  /-- Whether the gap below is half the gap above, as it is at a power of two. -/
  narrowBelow : Bool
  deriving DecidableEq, Repr

namespace Dyadic

/-- The parts of a finite double-precision number above zero, from its bits. -/
def ofBits (bits : UInt64) : Dyadic :=
  let fraction : Nat := bits.toNat % (1 <<< 52)
  let biased : Nat := bits.toNat >>> 52 % 2048
  if biased = 0 then ⟨fraction, -1074, false⟩
  else ⟨1 <<< 52 + fraction, (biased : Int) - 1075, fraction == 0 && decide (1 < biased)⟩

/-- Four times a number of mantissa units, in units of which `scale` make one step of the decimal
grid at a power of ten. -/
def onGrid (value : Dyadic) (power : Int) (quarters : Nat) : Nat :=
  quarters <<< (value.exponent - 2).toNat * Nat.pow 10 (-power).toNat

/-- The units in one step of the decimal grid at a power of ten. -/
def scale (value : Dyadic) (power : Int) : Nat :=
  1 <<< (2 - value.exponent).toNat * Nat.pow 10 power.toNat

/-- Whether a point of the decimal grid rounds to the value. -/
def contains (value : Dyadic) (power : Int) (point : Nat) : Bool :=
  let low := value.onGrid power (4 * value.mantissa - if value.narrowBelow then 1 else 2)
  let high := value.onGrid power (4 * value.mantissa + 2)
  let place := point * value.scale power
  if value.mantissa % 2 = 0 then decide (low ≤ place ∧ place ≤ high)
  else decide (low < place ∧ place < high)

/-- The better of the two neighbours on the decimal grid at a power of ten, if one rounds to the
value. -/
def nearest? (value : Dyadic) (power : Int) : Option Nat :=
  let exact := value.onGrid power (4 * value.mantissa)
  let step := value.scale power
  let below := exact / step
  let above := below + 1
  match value.contains power below && decide (0 < below), value.contains power above with
  | false, false => none
  | true, false => some below
  | false, true => some above
  | true, true =>
    let down := exact - below * step
    let up := above * step - exact
    if down < up then some below
    else if up < down then some above
    else some (if below % 2 = 0 then below else above)

/-- The power of ten of the first digit of the value: `power` such that the value lies from
`10 ^ power` up to ten times that. -/
def leadingPower (value : Dyadic) : Int :=
  let whole := value.onGrid 0 (4 * value.mantissa) / value.scale 0
  if 0 < whole then (Nat.toDigits 10 whole).length - 1
  else
    let reaches (places : Nat) : Bool :=
      decide (value.scale (-(places : Int)) ≤ value.onGrid (-(places : Int)) (4 * value.mantissa))
    let places : Nat := ((List.range 400).find? reaches).getD 0
    Int.neg places

/-- The same number without trailing zeros. -/
def trim : Nat → Nat → Int → Scaled
  | 0, digits, exponent => ⟨digits, exponent⟩
  | rounds + 1, digits, exponent =>
    if digits % 10 = 0 then trim rounds (digits / 10) (exponent + 1) else ⟨digits, exponent⟩

/-- The shortest decimal of the value; seventeen digits are always enough. -/
def shortest (value : Dyadic) : Scaled :=
  let first := value.leadingPower
  let found := (List.range 17).findSome? fun (count : Nat) =>
    let power := first - (count : Int)
    (value.nearest? power).map fun digits => trim 20 digits power
  found.getD ⟨0, 0⟩

end Dyadic

end SortableId.Decimal
