/-!
# Blank characters

The characters of Unicode's White_Space property: six controls, the spaces of several widths and
the separators of lines and paragraphs.
-/

namespace Noughts.Text

/-- The code points with the property, as inclusive ranges. -/
def blankRanges : List (Nat × Nat) :=
  [(0x09, 0x0d), (0x20, 0x20), (0x85, 0x85), (0xa0, 0xa0), (0x1680, 0x1680), (0x2000, 0x200a),
    (0x2028, 0x2029), (0x202f, 0x202f), (0x205f, 0x205f), (0x3000, 0x3000)]

/-- Whether a character has the property. -/
def isBlank (c : Char) : Bool :=
  blankRanges.any fun (low, high) => low ≤ c.toNat && c.toNat ≤ high

/-- Whether a text has no other characters. -/
def isBlankText (s : String) : Bool := s.toList.all isBlank

end Noughts.Text
