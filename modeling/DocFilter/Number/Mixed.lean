/-
# Comparing numbers of different kinds

Whole, binary and decimal numbers are compared by their exact values. A not-a-number equals
nothing. Asking for an order that involves a not-a-number has no answer as soon as one of the two
is decimal, and a signalling not-a-number cannot even be tested for equality.
-/

import DocFilter.Number.Binary64
import DocFilter.Number.Packed

namespace DocFilter

/-- A number of any kind. -/
inductive Number
  | whole (value : Int)
  | binary (value : Binary64)
  | decimal (value : Decimal)
  deriving DecidableEq

/-- A point of the extended number line. -/
inductive Extended
  | finite (value : Scaled)
  | infinite (negative : Bool)
  deriving DecidableEq, Repr

namespace Extended

/-- The order of the extended number line. -/
def compare : Extended → Extended → Ordering
  | .finite left, .finite right => left.compare right
  | .finite _, .infinite negative => if negative then .gt else .lt
  | .infinite negative, .finite _ => if negative then .lt else .gt
  | .infinite left, .infinite right => if left = right then .eq else if left then .lt else .gt

end Extended

namespace Number

/-- Where a number lies; a not-a-number lies nowhere. -/
def extended? : Number → Option Extended
  | .whole value => some (.finite (.ofInt value))
  | .binary .notANumber => none
  | .binary (.infinite negative) => some (.infinite negative)
  | .binary (.finite negative mantissa exponent _) =>
    some (.finite (Binary64.scale negative mantissa exponent))
  | .decimal (.finite negative coefficient exponent) =>
    some (.finite (Decimal.scale negative coefficient exponent))
  | .decimal (.infinite negative) => some (.infinite negative)
  | .decimal (.notANumber ..) => none

/-- Whether the number is a signalling not-a-number. -/
def isSignalling : Number → Bool
  | .decimal (.notANumber _ signalling _) => signalling
  | _ => false

/-- Whether the number is decimal. -/
def isDecimal : Number → Bool
  | .decimal _ => true
  | _ => false

/-- Whether two numbers are equal; no answer when one of them is signalling. -/
def equal? (left right : Number) : Option Bool :=
  if left.isSignalling || right.isSignalling then none
  else
    match left.extended?, right.extended? with
    | some leftPoint, some rightPoint => some (leftPoint.compare rightPoint == .eq)
    | _, _ => some false

/-- Whether the first number is smaller; no answer when one is a not-a-number and one decimal. -/
def less? (left right : Number) : Option Bool :=
  match left.extended?, right.extended? with
  | some leftPoint, some rightPoint => some (leftPoint.compare rightPoint == .lt)
  | _, _ => if left.isDecimal || right.isDecimal then none else some false

end Number

end DocFilter
