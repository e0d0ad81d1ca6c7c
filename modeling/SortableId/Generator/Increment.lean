import SortableId.Source.Basic
import SortableId.Bytes

/-!
# Random increments

An increment lies from 1 up to, but not including, a bound. A source with a native bounded number
gives it directly. Otherwise candidates are read: just enough bytes for the largest increment, the
excess high bits of the first byte masked away, until one lies in the range. The number of
candidates is limited by the caller, and a search that uses them up is unfinished.
-/

namespace SortableId.Increment

/-- The bits that a number needs. -/
def bitLength (n : UInt64) : Nat := if n = 0 then 0 else n.toNat.log2 + 1

/-- The bytes that a number needs. -/
def byteLength (n : UInt64) : Nat := (bitLength n + 7) / 8

/-- The bits of the first byte that a number uses. -/
def leadingMask (n : UInt64) : UInt8 :=
  match bitLength n % 8 with
  | 0 => 0xFF
  | bits => 0xFF >>> UInt8.ofNat (8 - bits)

/-- The number in a read, with only the masked bits of its first byte. -/
def candidate (mask : UInt8) : List UInt8 → UInt64
  | [] => 0
  | first :: rest => UInt64.ofNat (Bytes.toNat ((first &&& mask) :: rest))

/-- Whether a number is an increment for the bound. -/
def accepts (bound candidate : UInt64) : Bool := 1 ≤ candidate && candidate < bound

/-- Reads candidates until one is accepted. -/
def search (bound : UInt64) : Nat → Draws UInt64
  | 0 => .done .unfinished
  | attempts + 1 => .read (byteLength (bound - 1)) fun bytes =>
    let found := candidate (leadingMask (bound - 1)) bytes.toList
    if accepts bound found then .done (.value found) else search bound attempts

/-- Draws an increment: 1 without a request when the bound leaves no other. -/
def draw (attempts : Nat) (bound : UInt64) : Draws UInt64 :=
  if bound ≤ 1 then .done (.value 1)
  else .pick (bound - 1) fun
    | some answer => .done (.value (1 + answer))
    | none => search bound attempts

end SortableId.Increment
