import SortableId.Decimal.Shortest

/-!
# Decimal notation

How the shortest decimal of a floating-point number is written: with a point among its digits when
its first digit is near the point, and otherwise with a power of ten.
-/

namespace SortableId.Decimal

/-- The choices of a way to write numbers. -/
structure Style where
  /-- The least power of ten of a first digit that is written with a plain point. -/
  plainFrom : Int
  /-- The greatest such power. -/
  plainTo : Int
  deriving DecidableEq, Repr

/-- In messages: a plain point for numbers from a hundred-thousandth up to sixteen digits before
it. -/
def messages : Style := ⟨-5, 15⟩

/-- Digits with a point; a whole number keeps one zero after it. -/
def plain (digits : List Char) (first : Int) : List Char :=
  let zeros (count : Int) : List Char := List.replicate count.toNat '0'
  if first < 0 then ['0', '.'] ++ zeros (-first - 1) ++ digits
  else
    let whole := first.toNat + 1
    let fraction := digits.drop whole
    digits.take whole ++ zeros (whole - digits.length) ++ ['.']
      ++ if fraction.isEmpty then ['0'] else fraction

/-- Digits with a point after the first and a power of ten, which always has a sign. -/
def scientific (digits : List Char) (first : Int) : List Char :=
  let sign := if first < 0 then '-' else '+'
  let mantissa := match digits with
    | lead :: fraction@(_ :: _) => lead :: '.' :: fraction
    | _ => digits
  mantissa ++ ['e', sign] ++ Nat.toDigits 10 first.natAbs

/-- A number above zero. -/
def positive (style : Style) (value : Scaled) : List Char :=
  let digits := Nat.toDigits 10 value.digits
  let first := value.exponent + digits.length - 1
  if style.plainFrom ≤ first ∧ first ≤ style.plainTo then plain digits first
  else scientific digits first

/-- A finite number from the bits of its double-precision form. -/
def ofBits (style : Style) (bits : UInt64) : String :=
  let sign := if bits.toNat >>> 63 = 1 then ['-'] else []
  let magnitude := UInt64.ofNat (bits.toNat % (1 <<< 63))
  String.ofList <| sign ++
    if magnitude = 0 then ['0', '.', '0'] else positive style (Dyadic.ofBits magnitude).shortest

end SortableId.Decimal
