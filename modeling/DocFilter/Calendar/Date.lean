/-
# Calendar dates

Dates of the Gregorian calendar, which is taken to hold for all years from one on. A date is
ordered by the number of its day.
-/

import DocFilter.Text.Numeral

namespace DocFilter

open Text

/-- A day of the calendar. -/
structure Date where
  year : Nat
  month : Nat
  day : Nat
  deriving DecidableEq, Repr

namespace Date

/-- Every fourth year is a leap year, except the centuries that four hundred does not divide. -/
def isLeap (year : Nat) : Bool :=
  year % 4 == 0 && (year % 100 != 0 || year % 400 == 0)

/-- The days of the year before a month begins. -/
def daysBeforeMonth (year month : Nat) : Nat :=
  let ordinary := [0, 0, 31, 59, 90, 120, 151, 181, 212, 243, 273, 304, 334].getD month 334
  if isLeap year && 2 < month then ordinary + 1 else ordinary

/-- The number of a day, counted from one on the first day of year one. -/
def ordinal (date : Date) : Nat :=
  let before := date.year - 1
  before * 365 + before / 4 - before / 100 + before / 400 +
    daysBeforeMonth date.year date.month + date.day

/-- How many days a month has. -/
def daysInMonth (year month : Nat) : Nat :=
  if month = 2 then (if isLeap year then 29 else 28)
  else if [4, 6, 9, 11].contains month then 30
  else 31

/-- Whether the calendar has a day by these numbers. -/
def isValid (year month day : Nat) : Bool :=
  1 ≤ year && 1 ≤ month && month ≤ 12 && 1 ≤ day && day ≤ daysInMonth year month

/-- The date that a text of the form `2024-05-01` writes. -/
def read? : List Char → Option Date
  | [y₁, y₂, y₃, y₄, '-', m₁, m₂, '-', d₁, d₂] => do
    let year ← Numeral.read? 10 [y₁, y₂, y₃, y₄]
    let month ← Numeral.read? 10 [m₁, m₂]
    let day ← Numeral.read? 10 [d₁, d₂]
    if isValid year month day then return ⟨year, month, day⟩ else none
  | _ => none

/-- The text of a date: four digits, two and two. -/
def write (date : Date) : List Char :=
  Numeral.padded 10 4 date.year ++ '-' :: Numeral.padded 10 2 date.month ++
    '-' :: Numeral.padded 10 2 date.day

end Date

end DocFilter
