/-
# Numerals

Unsigned whole numbers written in ASCII digits of a base up to sixteen. Letters stand for the
digits from ten on, in either case when read and in lower case when written.
-/

namespace DocFilter.Text.Numeral

/-- The digits of a number, without leading zeros. -/
def write (base number : Nat) : List Char :=
  Nat.toDigits base number

/-- The decimal digits of a number. -/
def decimal (number : Nat) : String :=
  String.ofList (write 10 number)

/-- The decimal digits of a number, with a minus sign when it is negative. -/
def integer : Int → String
  | .ofNat number => decimal number
  | .negSucc number => "-" ++ decimal (number + 1)

/-- The digits of a number, filled up with zeros on the left. -/
def padded (base width number : Nat) : List Char :=
  (write base number).leftpad width '0'

/-- The value of one digit. -/
def digit? (base : Nat) (c : Char) : Option Nat :=
  let value :=
    if '0' ≤ c ∧ c ≤ '9' then c.toNat - '0'.toNat
    else if 'a' ≤ c ∧ c ≤ 'f' then c.toNat - 'a'.toNat + 10
    else if 'A' ≤ c ∧ c ≤ 'F' then c.toNat - 'A'.toNat + 10
    else base
  if value < base then some value else none

/-- Whether a character is a digit of the base. -/
def isDigit (base : Nat) (c : Char) : Bool :=
  (digit? base c).isSome

/-- The number that the digits write, going on from a number already read. A character that is
no digit ends the attempt. -/
def readFrom (base : Nat) : Nat → List Char → Option Nat
  | number, [] => some number
  | number, c :: rest => do
    let value ← digit? base c
    readFrom base (number * base + value) rest

/-- The number that a nonempty list of digits writes. -/
def read? (base : Nat) : List Char → Option Nat
  | [] => none
  | digits => readFrom base 0 digits

/-- A whole number with an optional sign. -/
def readInteger? : List Char → Option Int
  | '-' :: digits => (read? 10 digits).map fun number => -(number : Int)
  | '+' :: digits => (read? 10 digits).map fun number => (number : Int)
  | digits => (read? 10 digits).map fun number => (number : Int)

end DocFilter.Text.Numeral
