/-
# Binary numbers of double width

A double-width binary number is a signed multiple of a power of two with at most 53 significant
bits, an infinity, or not a number. A finite one is stored in its only canonical form, so equal
fields mean the same number with the same sign of zero. Numbers are read by rounding to the
nearest, half to even, and written with the fewest digits that read back.
-/

import DocFilter.Number.Literal
import DocFilter.Number.Scaled

namespace DocFilter

open Text

/-- A power of two; one if the exponent is negative. -/
def powerOfTwo (exponent : Int) : Nat :=
  Nat.pow 2 exponent.toNat

/-- A power of five; one if the exponent is negative. -/
def powerOfFive (exponent : Int) : Nat :=
  Nat.pow 5 exponent.toNat

/-- The mantissa has 53 bits, or fewer at the lowest exponent, and the exponent is in range. -/
def IsCanonicalBinary (mantissa : Nat) (exponent : Int) : Prop :=
  mantissa < Nat.pow 2 53 ∧ -1074 ≤ exponent ∧ exponent ≤ 971 ∧
    (exponent = -1074 ∨ Nat.pow 2 52 ≤ mantissa)

instance (mantissa : Nat) (exponent : Int) : Decidable (IsCanonicalBinary mantissa exponent) := by
  unfold IsCanonicalBinary
  infer_instance

/-- A double-width binary number; a finite one is `± mantissa · 2 ^ exponent`. -/
inductive Binary64
  | notANumber
  | infinite (negative : Bool)
  | finite (negative : Bool) (mantissa : Nat) (exponent : Int)
      (canonical : IsCanonicalBinary mantissa exponent)
  deriving DecidableEq

namespace Binary64

/-- The exact value of a finite number over a power of ten: halves are fives over ten. -/
def scale (negative : Bool) (mantissa : Nat) (exponent : Int) : Scaled :=
  let size : Scaled :=
    if 0 ≤ exponent then ⟨mantissa * powerOfTwo exponent, 0⟩
    else ⟨mantissa * powerOfFive (-exponent), exponent⟩
  if negative then ⟨-size.coefficient, size.exponent⟩ else size

/-- The quotient rounded to the nearest whole number, and a half to the even one. -/
def roundQuotient (numerator denominator : Nat) : Nat :=
  let quotient := numerator / denominator
  let twice := 2 * (numerator % denominator)
  if denominator < twice || (twice == denominator && quotient % 2 == 1) then quotient + 1
  else quotient

/-- The fraction scaled down by a power of two, as numerator and denominator. -/
def scaledDown (numerator denominator : Nat) (exponent : Int) : Nat × Nat :=
  if 0 ≤ exponent then (numerator, denominator * powerOfTwo exponent)
  else (numerator * powerOfTwo (-exponent), denominator)

/-- The number nearest to a positive fraction. The exponent is the one that leaves 53 bits
before the point, or the lowest one; a number beyond the range is infinite. -/
def roundFraction (negative : Bool) (numerator denominator : Nat) : Binary64 :=
  let estimate : Int := (Nat.log2 numerator : Int) - Nat.log2 denominator - 52
  let (top, bottom) := scaledDown numerator denominator estimate
  let fitted := if top / bottom < Nat.pow 2 52 then estimate - 1 else estimate
  let exponent := max fitted (-1074)
  let (top, bottom) := scaledDown numerator denominator exponent
  let rounded := roundQuotient top bottom
  let (mantissa, exponent) :=
    if rounded = Nat.pow 2 53 then (Nat.pow 2 52, exponent + 1) else (rounded, exponent)
  if canonical : IsCanonicalBinary mantissa exponent then
    .finite negative mantissa exponent canonical
  else .infinite negative

/-- The number nearest to `coefficient · 10 ^ exponent`. -/
def round (negative : Bool) (coefficient : Nat) (exponent : Int) : Binary64 :=
  if coefficient = 0 then .finite negative 0 (-1074) (by decide)
  else if 0 ≤ exponent then roundFraction negative (coefficient * powerOfTen exponent) 1
  else roundFraction negative coefficient (powerOfTen (-exponent))

/-- The number that a text writes: a decimal literal, `inf`, `-inf` or `nan`. -/
def read? (text : String) : Option Binary64 :=
  match text with
  | "nan" => some .notANumber
  | "inf" => some (.infinite false)
  | "-inf" => some (.infinite true)
  | _ =>
    (Literal.read? text.toList).map fun literal =>
      round literal.negative literal.coefficient literal.exponent

/-- The two multiples of `10 ^ unit` next to a positive number, each with its distance; the
distances share a denominator, which is left out. -/
def gridNeighbours (number : Scaled) (unit : Int) : List (Nat × Nat) :=
  let size := number.coefficient.natAbs
  if number.exponent ≤ unit then
    let step := powerOfTen (unit - number.exponent)
    [(size / step, size % step), (size / step + 1, step - size % step)]
  else [(size * powerOfTen (number.exponent - unit), 0)]

/-- The nearer of the neighbours on a grid that read back as the number; of two equally near ones
the even one. -/
def gridHit? (mantissa : Nat) (exponent : Int) (unit : Int) : Option Nat :=
  let number := scale false mantissa exponent
  let hits := (gridNeighbours number unit).filter fun neighbour =>
    match round false neighbour.1 unit with
    | .finite _ readMantissa readExponent _ => readMantissa = mantissa ∧ readExponent = exponent
    | _ => false
  match hits with
  | [] => none
  | [hit] => some hit.1
  | low :: high :: _ =>
    if low.2 < high.2 || (low.2 == high.2 && low.1 % 2 == 0) then some low.1 else some high.1

/-- The fewest digits that read back as a positive number, as a coefficient and a power of ten:
the grids of one, two and up to seventeen digits are tried in turn. -/
def shortest (mantissa : Nat) (exponent : Int) : Nat × Int :=
  let number := scale false mantissa exponent
  let found := (List.range' 1 17).findSome? fun (digits : Nat) =>
    let unit := number.height - (digits : Int)
    (gridHit? mantissa exponent unit).map fun coefficient => (coefficient, unit)
  found.getD (number.coefficient.natAbs, number.exponent)

/-- The exponent of scientific form: a sign and at least two digits. -/
def exponentText (exponent : Int) : List Char :=
  'e' :: (if exponent < 0 then '-' else '+') :: Numeral.padded 10 2 exponent.natAbs

/-- A positive number in its shortest digits. From a ten-thousandth up to ten to the sixteenth it
is written with a decimal point and at least one digit after it, and outside that range in
scientific form. -/
def writeSize (mantissa : Nat) (exponent : Int) : List Char :=
  let (coefficient, unit) := shortest mantissa exponent
  let written := Nat.toDigits 10 coefficient
  let point : Int := written.length + unit
  let digits := (written.reverse.dropWhile (· == '0')).reverse
  if -4 < point && point ≤ 16 then
    let (whole, fraction) := Literal.layOut digits point
    whole ++ '.' :: (if fraction.isEmpty then ['0'] else fraction)
  else
    let (whole, fraction) := Literal.layOut digits 1
    whole ++ (if fraction.isEmpty then [] else '.' :: fraction) ++ exponentText (point - 1)

/-- The text of a number. -/
def write : Binary64 → String
  | .notANumber => "nan"
  | .infinite negative => if negative then "-inf" else "inf"
  | .finite negative mantissa exponent _ =>
    let size := if mantissa = 0 then ['0', '.', '0'] else writeSize mantissa exponent
    String.ofList (if negative then '-' :: size else size)

end Binary64

end DocFilter
