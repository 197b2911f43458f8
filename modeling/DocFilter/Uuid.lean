/-
# Universally unique identifiers

A number of 128 bits, written as 32 hexadecimal digits in five groups.
-/

import DocFilter.Text.Numeral

namespace DocFilter

open Text

/-- A universally unique identifier. -/
structure Uuid where
  number : Nat
  deriving DecidableEq, Repr

namespace Uuid

/-- The identifier that a text writes: 32 hexadecimal digits, whatever hyphens stand among them
and whether or not braces stand around them. -/
def read? (text : String) : Option Uuid :=
  let digits := text.toList.filter fun c => !(['-', '\x7b', '\x7d'].contains c)
  if digits.length = 32 then (Numeral.read? 16 digits).map Uuid.mk else none

/-- The text of an identifier: lower-case digits in groups of 8, 4, 4, 4 and 12. -/
def write (identifier : Uuid) : String :=
  let digits := Numeral.padded 16 32 identifier.number
  let group (start size : Nat) : List Char := (digits.drop start).take size
  String.ofList <|
    group 0 8 ++ '-' :: group 8 4 ++ '-' :: group 12 4 ++ '-' :: group 16 4 ++ '-' :: group 20 12

end Uuid

end DocFilter
