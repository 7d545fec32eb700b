/-
  SerialNumbers.Time.Calendar

  The Gregorian calendar, extended to year 1: days are counted from
  1 January of year 1, which is day 1 and a Monday.  Weeks run from Monday to
  Sunday and belong to the year that holds their Thursday.
-/

namespace SerialNumbers.Time

/-! ## Years and months -/

def isLeap (year : Nat) : Bool :=
  year % 4 == 0 && (year % 100 != 0 || year % 400 == 0)

def yearLength (year : Nat) : Nat :=
  if isLeap year then 366 else 365

def monthLength (year month : Nat) : Nat :=
  if month == 2 then (if isLeap year then 29 else 28)
  else if month == 4 || month == 6 || month == 9 || month == 11 then 30
  else 31

/-- The number of days before 1 January of a year. -/
def daysBeforeYear (year : Nat) : Nat :=
  365 * (year - 1) + (year - 1) / 4 - (year - 1) / 100 + (year - 1) / 400

/-- The number of days of a year before the first of a month. -/
def daysBeforeMonth (year : Nat) : Nat → Nat
  | 0 | 1 => 0
  | month + 2 => daysBeforeMonth year (month + 1) + monthLength year (month + 1)

/-! ## Dates -/

structure Date where
  year : Nat
  month : Nat
  day : Nat
deriving Repr, DecidableEq, Inhabited

namespace Date

/-- The count of the day, with 1 January of year 1 as day 1. -/
def dayNumber (d : Date) : Nat :=
  daysBeforeYear d.year + daysBeforeMonth d.year d.month + d.day

/-- The month and day of the `n`-th day of a year, `n` counted from 0, found by passing
    the months from `month` on. -/
def monthDay (year : Nat) : Nat → Nat → Nat → Nat × Nat
  | 0, month, n => (month, n + 1)
  | fuel + 1, month, n =>
    if n < monthLength year month then (month, n + 1)
    else monthDay year fuel (month + 1) (n - monthLength year month)

/-- The year of a day number: a first guess from the mean length of a year is at most
    one year off. -/
def yearOf (number : Nat) : Nat :=
  let guess := 400 * (number - 1) / 146097 + 1
  if number ≤ daysBeforeYear guess then guess - 1
  else if daysBeforeYear (guess + 1) < number then guess + 1
  else guess

/-- The date of a day number. -/
def ofDayNumber (number : Nat) : Date :=
  let year := yearOf number
  let (month, day) := monthDay year 11 1 (number - daysBeforeYear year - 1)
  ⟨year, month, day⟩

/-- The calendar has this date. -/
def isValid (d : Date) : Bool :=
  1 ≤ d.year && d.year ≤ 9999 && 1 ≤ d.month && d.month ≤ 12 &&
    1 ≤ d.day && d.day ≤ monthLength d.year d.month

/-! ## Days of the week and the year -/

/-- The day of the week, Monday being 1 and Sunday 7. -/
def weekday (d : Date) : Nat :=
  (d.dayNumber + 6) % 7 + 1

/-- The day of the year, 1 January being 1. -/
def yearDay (d : Date) : Nat :=
  daysBeforeMonth d.year d.month + d.day

/-- The Thursday of the week of a date. -/
def thursday (d : Date) : Date :=
  ofDayNumber (d.dayNumber + 4 - d.weekday)

/-- The year that the week of a date belongs to. -/
def weekYear (d : Date) : Nat :=
  d.thursday.year

/-- The number of the week of a date in the year that it belongs to. -/
def week (d : Date) : Nat :=
  (d.thursday.yearDay - 1) / 7 + 1

def quarter (d : Date) : Nat :=
  (d.month - 1) / 3 + 1

end Date

/-- The number of the last day of year 9999. -/
def lastDayNumber : Nat := 3652059

end SerialNumbers.Time
