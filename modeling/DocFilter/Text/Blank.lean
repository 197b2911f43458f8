/-
# Blank characters

The characters that count as white space: the separators of Unicode 14, the ASCII controls that
move the writing position, and the four ASCII information separators.
-/

import DocFilter.Text.Range

set_option maxRecDepth 4000

namespace DocFilter.Text

/-- The code points of blank characters. -/
def blankRanges : List (Nat × Nat) :=
  [(0x9, 0xd), (0x1c, 0x20), (0x85, 0x85), (0xa0, 0xa0), (0x1680, 0x1680), (0x2000, 0x200a),
   (0x2028, 0x2029), (0x202f, 0x202f), (0x205f, 0x205f), (0x3000, 0x3000)]

/-- Whether the character is white space. -/
def isBlank (c : Char) : Bool :=
  Range.covers blankRanges c.toNat

end DocFilter.Text
