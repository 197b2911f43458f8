/-
# Decimal numbers

A decimal number keeps its digits: `1.0` and `1.00` are different representations of one value.
There are signed infinities and four kinds of not-a-number, quiet or signalling and of either
sign, each of which may carry a payload of digits.
-/

import DocFilter.Number.Literal
import DocFilter.Number.Scaled

namespace DocFilter

open Text

/-- A decimal number; a finite one is `± coefficient · 10 ^ exponent`, and a payload of zero is no
payload. -/
inductive Decimal
  | finite (negative : Bool) (coefficient : Nat) (exponent : Int)
  | infinite (negative : Bool)
  | notANumber (negative signalling : Bool) (payload : Nat)
  deriving DecidableEq, Repr

namespace Decimal

/-- A not-a-number whose name has been read off: digits of a payload may follow. -/
def readPayload? (negative signalling : Bool) : List Char → Option Decimal
  | [] => some (.notANumber negative signalling 0)
  | digits => (Numeral.read? 10 digits).map fun payload => .notANumber negative signalling payload

/-- The decimal that a text writes: a literal, or the name of a special value in letters of
either case. -/
def read? (text : String) : Option Decimal :=
  let (negative, unsigned) := Literal.takeSign text.toList
  match unsigned.map Char.toLower with
  | ['i', 'n', 'f'] => some (.infinite negative)
  | ['i', 'n', 'f', 'i', 'n', 'i', 't', 'y'] => some (.infinite negative)
  | 'n' :: 'a' :: 'n' :: payload => readPayload? negative false payload
  | 's' :: 'n' :: 'a' :: 'n' :: payload => readPayload? negative true payload
  | _ =>
    (Literal.read? text.toList).map fun literal =>
      .finite literal.negative literal.coefficient literal.exponent

/-- The size of a finite decimal. It is written with a decimal point alone when no zeros have to be
added after the digits and at most five between the point and the digits, and in scientific form
otherwise. -/
def writeSize (coefficient : Nat) (exponent : Int) : List Char :=
  let digits := Nat.toDigits 10 coefficient
  let point : Int := digits.length + exponent
  let shownPoint := if exponent ≤ 0 ∧ -6 < point then point else 1
  let (whole, fraction) := Literal.layOut digits shownPoint
  let scientific :=
    if point = shownPoint then []
    else
      'E' :: (if point < shownPoint then '-' else '+') ::
        Nat.toDigits 10 (point - shownPoint).natAbs
  whole ++ (if fraction.isEmpty then [] else '.' :: fraction) ++ scientific

/-- The text of a decimal; reading it gives the same representation back. -/
def write (number : Decimal) : String :=
  let signed (negative : Bool) (size : List Char) : String :=
    String.ofList (if negative then '-' :: size else size)
  match number with
  | .finite negative coefficient exponent => signed negative (writeSize coefficient exponent)
  | .infinite negative => signed negative "Infinity".toList
  | .notANumber negative signalling payload =>
    signed negative ((if signalling then "sNaN" else "NaN").toList ++
      (if payload = 0 then [] else Nat.toDigits 10 payload))

/-- The exact value of a finite decimal. -/
def scale (negative : Bool) (coefficient : Nat) (exponent : Int) : Scaled :=
  ⟨if negative then -(coefficient : Int) else coefficient, exponent⟩

end Decimal

end DocFilter
