import Evidence.Text.Basic

/-!
# Blank characters

The Unicode property `White_Space`, and trimming by it.

Main definitions:

- `Blank.ranges` and `Blank.isBlank`: the characters with the property.
- `Text.trim`: a text without the blanks at its ends.
-/

namespace Evidence

namespace Blank

/-- The code points with the property `White_Space`, as ranges that include both ends. -/
def ranges : List (Nat × Nat) :=
  [(0x09, 0x0D), (0x20, 0x20), (0x85, 0x85), (0xA0, 0xA0), (0x1680, 0x1680), (0x2000, 0x200A),
    (0x2028, 0x2029), (0x202F, 0x202F), (0x205F, 0x205F), (0x3000, 0x3000)]

/-- Whether a character is blank. -/
def isBlank (c : Char) : Bool :=
  ranges.any fun (low, high) => low ≤ c.toNat && c.toNat ≤ high

end Blank

namespace Text

/-- A text without the blanks at its front. -/
def trimLeft (t : Text) : Text :=
  t.dropWhile Blank.isBlank

/-- A text without the blanks at its end. -/
def trimRight (t : Text) : Text :=
  (t.reverse.dropWhile Blank.isBlank).reverse

/-- A text without the blanks at both ends. -/
def trim (t : Text) : Text :=
  trimRight (trimLeft t)

end Text

end Evidence
