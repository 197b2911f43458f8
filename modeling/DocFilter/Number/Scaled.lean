/-
# Scaled numbers

A scaled number is a whole coefficient times a power of ten. Every finite number that a document
can hold, whole, binary or decimal, is one of these exactly, so comparing scaled numbers compares
without rounding.
-/

namespace DocFilter

/-- A power of ten; one if the exponent is negative. -/
def powerOfTen (exponent : Int) : Nat :=
  Nat.pow 10 exponent.toNat

/-- The number `coefficient · 10 ^ exponent`. -/
structure Scaled where
  coefficient : Int
  exponent : Int
  deriving DecidableEq, Repr

namespace Scaled

/-- How many decimal digits a natural number has. -/
def digitCount (number : Nat) : Nat :=
  (Nat.toDigits 10 number).length

/-- A whole number. -/
def ofInt (number : Int) : Scaled :=
  ⟨number, 0⟩

/-- The position of the leading digit: a number other than zero is smaller in size than
`10 ^ height` and at least a tenth of it. -/
def height (number : Scaled) : Int :=
  digitCount number.coefficient.natAbs + number.exponent

/-- The coefficient that the number has over a lower exponent. -/
def coefficientOver (number : Scaled) (exponent : Int) : Int :=
  if number.coefficient = 0 then 0
  else number.coefficient * powerOfTen (number.exponent - exponent)

/-- The exact order of two numbers. Signs decide first, then the positions of the leading
digits, and only numbers that agree in both are brought over a common exponent; so numbers that
are far apart are compared without writing out their zeros. -/
def compare (left right : Scaled) : Ordering :=
  let leftSign := left.coefficient.sign
  let rightSign := right.coefficient.sign
  (Ord.compare leftSign rightSign).then <|
    (Ord.compare (leftSign * left.height) (rightSign * right.height)).then <|
      let exponent := min left.exponent right.exponent
      Ord.compare (left.coefficientOver exponent) (right.coefficientOver exponent)

end Scaled

end DocFilter
