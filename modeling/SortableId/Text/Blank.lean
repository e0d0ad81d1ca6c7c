/-!
# Blank characters

The white space of all scripts: what separates words and is trimmed from the ends of a line.
-/

namespace SortableId.Text

/-- Inclusive ranges of white space. -/
def blankRanges : List (Nat × Nat) :=
  [(0x9, 0xD), (0x20, 0x20), (0x85, 0x85), (0xA0, 0xA0), (0x1680, 0x1680), (0x2000, 0x200A),
    (0x2028, 0x2029), (0x202F, 0x202F), (0x205F, 0x205F), (0x3000, 0x3000)]

/-- Whether a character is white space. -/
def isBlank (char : Char) : Bool :=
  blankRanges.any fun (low, high) => decide (low ≤ char.toNat ∧ char.toNat ≤ high)

/-- Text without the white space before it. -/
def trimStart (text : List Char) : List Char := text.dropWhile isBlank

/-- Text without the white space after it. -/
def trimEnd (text : List Char) : List Char := (trimStart text.reverse).reverse

end SortableId.Text
