/-
# Wildcard texts

A wildcard text is matched by every text that holds its chunks, the parts between the stars, one
after the other. Its pattern has `.*` for every star. In the literal mode the chunks are escaped,
so that they stand for themselves; otherwise they are patterns of their own.
-/

import DocFilter.Text.Pieces

namespace DocFilter.Wildcard

open Text

/-- The character that stands for any run of characters. -/
def star : Char := '*'

/-- The pattern of a star. -/
def anyRun : List Char := ['.', '*']

/-- The characters that have a meaning in patterns, and the blanks and separators that could have
one in a verbose pattern or in a set. -/
def specialChars : List Char :=
  ['(', ')', '[', ']', '\x7b', '\x7d', '?', '*', '+', '-', '|', '^', '$', '\\', '.', '&', '~', '#',
    ' ', '\t', '\n', '\r', '\x0b', '\x0c']

/-- A character as it stands for itself in a pattern. -/
def escapeChar (c : Char) : List Char :=
  if specialChars.contains c then ['\\', c] else [c]

/-- A text as it stands for itself in a pattern. -/
def escape (text : List Char) : List Char :=
  text.flatMap escapeChar

/-- The pattern with every star replaced and everything else left as it is. -/
def openPattern (text : List Char) : List Char :=
  text.flatMap fun c => if c = star then anyRun else [c]

/-- The pattern with every star replaced and the chunks between them escaped. -/
def literalPattern (text : List Char) : List Char :=
  Pieces.join anyRun ((Pieces.split star text).map escape)

/-- The pattern of a wildcard text. -/
def pattern (literal : Bool) (text : String) : String :=
  String.ofList (if literal then literalPattern text.toList else openPattern text.toList)

end DocFilter.Wildcard
