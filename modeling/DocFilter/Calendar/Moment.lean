/-
# Moments

A moment is a date and a time of day to the microsecond. With an offset it names a point on the time
line; without one it is local, and nothing orders it among the points of the time line.

The offset is fixed: it is a part of the moment, and does not follow from its other parts. Zones
whose offset depends on the date, or on which pass through a repeated hour is meant, are no values
here, so what is said about the order and the equality of moments is said about fixed offsets only.
-/

import DocFilter.Calendar.Date

namespace DocFilter

open Text

/-- A date and a time of day; the offset is how many microseconds local time is ahead. -/
structure Moment where
  date : Date
  hour : Nat
  minute : Nat
  second : Nat
  microsecond : Nat
  offset : Option Int
  deriving DecidableEq, Repr

namespace Moment

/-- The first moment of a day, without an offset. -/
def ofDate (date : Date) : Moment :=
  ⟨date, 0, 0, 0, 0, none⟩

/-- The microseconds of a clock reading. -/
def clock (hour minute second microsecond : Nat) : Nat :=
  ((hour * 60 + minute) * 60 + second) * 1000000 + microsecond

/-- The microseconds of local time since the calendar began. -/
def localTime (moment : Moment) : Int :=
  moment.date.ordinal * 86400000000 +
    clock moment.hour moment.minute moment.second moment.microsecond

/-- The order of two moments: both by local time or both by their points on the time line. A moment
with an offset and one without have no order. -/
def compare? (left right : Moment) : Option Ordering :=
  match left.offset, right.offset with
  | none, none => some (Ord.compare left.localTime right.localTime)
  | some leftOffset, some rightOffset =>
    some (Ord.compare (left.localTime - leftOffset) (right.localTime - rightOffset))
  | _, _ => none

/-- The microseconds that a fraction of up to six digits writes. -/
def readFraction? : List Char → Option Nat
  | [] => some 0
  | '.' :: digits =>
    if digits.length ≤ 6 then
      Numeral.read? 10 (digits ++ List.replicate (6 - digits.length) '0')
    else none
  | _ => none

/-- A clock reading of hours and minutes, with seconds and a fraction if they are there. -/
def readClock? : List Char → Option (Nat × Nat × Nat × Nat)
  | h₁ :: h₂ :: ':' :: m₁ :: m₂ :: rest => do
    let hour ← Numeral.read? 10 [h₁, h₂]
    let minute ← Numeral.read? 10 [m₁, m₂]
    match rest with
    | [] => return (hour, minute, 0, 0)
    | ':' :: s₁ :: s₂ :: fraction => do
      let second ← Numeral.read? 10 [s₁, s₂]
      let microsecond ← readFraction? fraction
      return (hour, minute, second, microsecond)
    | _ => none
  | _ => none

/-- The offset after a clock reading: none, `Z`, or a sign and a clock reading of its own. Offsets
are shorter than a day, and one shorter than a second counts as zero. -/
def readOffset? : List Char → Option (Option Int)
  | [] => some none
  | ['Z'] => some (some 0)
  | sign :: rest => do
    if sign != '+' && sign != '-' then none
    let (hour, minute, second, microsecond) ← readClock? rest
    let size := clock hour minute second microsecond
    if 86400000000 ≤ size then none
    else if size < 1000000 then return some 0
    else return some (if sign == '-' then -(size : Int) else size)

/-- The moment that a text of the form `2024-05-01T12:30:00.000100+02:00` writes. -/
def read? (text : List Char) : Option Moment := do
  let date ← Date.read? (text.take 10)
  let time := text.drop 11
  let isClockChar (c : Char) : Bool := Numeral.isDigit 10 c || c == ':' || c == '.'
  let (hour, minute, second, microsecond) ← readClock? (time.takeWhile isClockChar)
  let offset ← readOffset? (time.dropWhile isClockChar)
  if hour < 24 && minute < 60 && second < 60 then
    return ⟨date, hour, minute, second, microsecond, offset⟩
  else none

/-- Two digits after a colon. -/
def colonPair (number : Nat) : List Char :=
  ':' :: Numeral.padded 10 2 number

/-- A fraction of a second, left out when it is zero. -/
def writeFraction (microsecond : Nat) : List Char :=
  if microsecond = 0 then [] else '.' :: Numeral.padded 10 6 microsecond

/-- The text of an offset; seconds and their fraction are left out when they are zero. -/
def writeOffset (offset : Int) : List Char :=
  let size := offset.natAbs
  let microsecond := size % 1000000
  let seconds := size / 1000000
  (if offset < 0 then '-' else '+') :: Numeral.padded 10 2 (seconds / 3600) ++
    colonPair (seconds / 60 % 60) ++
    (if seconds % 60 = 0 ∧ microsecond = 0 then [] else colonPair (seconds % 60)) ++
    writeFraction microsecond

/-- The text of a moment, with a given character between the date and the time. -/
def write (separator : Char) (moment : Moment) : String :=
  String.ofList <|
    moment.date.write ++ separator :: Numeral.padded 10 2 moment.hour ++
      colonPair moment.minute ++ colonPair moment.second ++ writeFraction moment.microsecond ++
      (moment.offset.map writeOffset).getD []

end Moment

end DocFilter
