/-
# Decimal literals

A number written with an optional sign, digits, an optional fraction and an optional exponent.
Reading keeps the coefficient and the exponent exactly as they are written; laying digits out
around the decimal point is the common part of writing them.
-/

import DocFilter.Text.Numeral

namespace DocFilter

open Text

/-- What a decimal literal says: a sign, the digits as one number, and the power of ten. -/
structure Literal where
  negative : Bool
  coefficient : Nat
  exponent : Int
  deriving DecidableEq, Repr

namespace Literal

/-- The sign in front, if any, and what follows it. -/
def takeSign : List Char → Bool × List Char
  | '-' :: rest => (true, rest)
  | '+' :: rest => (false, rest)
  | rest => (false, rest)

/-- The exponent part: nothing, or the mark and a signed whole number. -/
def readExponent? : List Char → Option Int
  | [] => some 0
  | mark :: rest => if mark == 'e' || mark == 'E' then Numeral.readInteger? rest else none

/-- The literal that a text writes, if it writes one. -/
def read? (text : List Char) : Option Literal := do
  let (negative, unsigned) := takeSign text
  let whole := unsigned.takeWhile (Numeral.isDigit 10)
  let afterWhole := unsigned.dropWhile (Numeral.isDigit 10)
  let (fraction, afterFraction) :=
    match afterWhole with
    | '.' :: rest => (rest.takeWhile (Numeral.isDigit 10), rest.dropWhile (Numeral.isDigit 10))
    | rest => ([], rest)
  let coefficient ← Numeral.read? 10 (whole ++ fraction)
  let exponent ← readExponent? afterFraction
  return ⟨negative, coefficient, exponent - fraction.length⟩

/-- Digits laid out around a decimal point that stands after the first `point` of them: the part
before it, which is never empty, and the part after it. -/
def layOut (digits : List Char) (point : Int) : List Char × List Char :=
  if point ≤ 0 then (['0'], List.replicate (-point).toNat '0' ++ digits)
  else
    let filled := digits ++ List.replicate (point.toNat - digits.length) '0'
    (filled.take point.toNat, filled.drop point.toNat)

end Literal

end DocFilter
