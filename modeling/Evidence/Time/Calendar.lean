/-!
# The Gregorian calendar

Dates of the proleptic Gregorian calendar, counted in days from 1970-01-01.

Main definitions:

- `Calendar.isLeap` and `Calendar.daysInMonth`: the lengths of years and months.
- `Date` and `Date.Valid`: a day of a month of a year, and when there is such a day.
- `Date.dayNumber`: the days from 1970-01-01 to a date, negative for earlier ones.
- `Date.ofDayNumber`: the date that many days from 1970-01-01.
-/

namespace Evidence

namespace Calendar

/-! ## Lengths of years and months -/

/-- Every fourth year is a leap year, of the centuries only every fourth. -/
def isLeap (year : Int) : Bool :=
  year % 4 = 0 && (year % 100 ≠ 0 || year % 400 = 0)

/-- The number of days of a month, zero for a month that no year has. -/
def daysInMonth (year : Int) : Nat → Nat
  | 1 => 31
  | 2 => if isLeap year then 29 else 28
  | 3 => 31
  | 4 => 30
  | 5 => 31
  | 6 => 30
  | 7 => 31
  | 8 => 31
  | 9 => 30
  | 10 => 31
  | 11 => 30
  | 12 => 31
  | _ => 0

/-- The days from the first of January of the year 0 to that of `year`. -/
def daysBeforeYear (year : Int) : Int :=
  365 * year + (year + 3) / 4 - (year + 99) / 100 + (year + 399) / 400

/-- The days of a year that lie before the first of a month. -/
def daysBeforeMonth (year : Int) : Nat → Nat
  | 0 => 0
  | month + 1 => daysBeforeMonth year month + daysInMonth year month

/-- The year that holds a day, counted from the first of January of the year 0.  The mean length
of a year gives it up to one year, in either direction. -/
def yearOfDay (day : Int) : Int :=
  let guess := 400 * day / 146097
  if day < daysBeforeYear guess then guess - 1
  else if daysBeforeYear (guess + 1) ≤ day then guess + 1
  else guess

/-- The month that holds a day of a year, found among the months from `month` on, and the day of
that month.  Days are counted from zero, months and their days from one. -/
def monthOfDay (year : Int) : (monthsLeft month day : Nat) → Nat × Nat
  | 0, month, day => (month, day + 1)
  | left + 1, month, day =>
    if day < daysInMonth year month then (month, day + 1)
    else monthOfDay year left (month + 1) (day - daysInMonth year month)

end Calendar

/-! ## Dates -/

/-- A day of a month of a year, each counted as calendars do. -/
structure Date where
  year : Int
  month : Nat
  day : Nat
deriving DecidableEq, Repr

namespace Date

open Calendar

/-- A date is valid when its month has such a day; only the months 1 to 12 have any. -/
def Valid (d : Date) : Prop :=
  1 ≤ d.day ∧ d.day ≤ daysInMonth d.year d.month

instance (d : Date) : Decidable d.Valid :=
  inferInstanceAs (Decidable (_ ∧ _))

/-- The day number of 1970-01-01, counted from the first of January of the year 0. -/
def epoch : Int := 719528

/-- The days from 1970-01-01 to a date. -/
def dayNumber (d : Date) : Int :=
  daysBeforeYear d.year + daysBeforeMonth d.year d.month + (d.day - 1) - epoch

/-- The date with a day number. -/
def ofDayNumber (n : Int) : Date :=
  let day := n + epoch
  let year := yearOfDay day
  let (month, dayOfMonth) := monthOfDay year 11 1 (day - daysBeforeYear year).toNat
  ⟨year, month, dayOfMonth⟩

end Date

end Evidence
