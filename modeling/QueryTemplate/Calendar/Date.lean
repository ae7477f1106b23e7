import QueryTemplate.Text.Numeral

/-!
# Calendar dates

Days of the Gregorian calendar, extended to all years before it began, without a time of day.
-/

set_option autoImplicit false

namespace QueryTemplate

namespace Calendar

def isLeapYear (year : Int) : Bool :=
  year % 4 == 0 && (year % 100 != 0 || year % 400 == 0)

/-- The number of days of a month; no days outside the twelve months. -/
def daysInMonth (year : Int) (month : Nat) : Nat :=
  match month with
  | 2 => if isLeapYear year then 29 else 28
  | 4 | 6 | 9 | 11 => 30
  | 1 | 3 | 5 | 7 | 8 | 10 | 12 => 31
  | _ => 0

end Calendar

/-- A day that the calendar has. -/
structure Date where
  year : Int
  month : Nat
  day : Nat
  day_pos : 1 ≤ day
  day_le : day ≤ Calendar.daysInMonth year month
  deriving DecidableEq, Repr

namespace Date

/-- The day with the given year, month and day of the month, if there is one. -/
def ofYearMonthDay? (year : Int) (month day : Nat) : Option Date :=
  if valid : 1 ≤ day ∧ day ≤ Calendar.daysInMonth year month then
    some ⟨year, month, day, valid.1, valid.2⟩
  else none

/-- A year has at least four digits. A year before the year zero has a minus sign, and one with
more than four digits after it a plus sign. -/
def yearText (year : Int) : Text :=
  let digits := Text.padZeros 4 (Text.decimal year.natAbs)
  if year < 0 then '-' :: digits else if year > 9999 then '+' :: digits else digits

def text (d : Date) : Text :=
  yearText d.year ++ '-' :: Text.padZeros 2 (Text.decimal d.month)
    ++ '-' :: Text.padZeros 2 (Text.decimal d.day)

end Date

end QueryTemplate
