namespace Stencil

/-! Days of the proleptic Gregorian calendar, and the weeks they belong to.

A date is a year and the number of a day within it.  Day numbers count from 1970-01-01, which is
day 0 and a Thursday; `Date.toDays_ofDays` says that no day is lost or counted twice.
-/

/-- Tests for the years of 366 days. -/
def isLeapYear (year : Int) : Bool :=
  year % 4 = 0 && (year % 100 != 0 || year % 400 = 0)

/-- A day: its year and its number in the year, which starts at 1. -/
structure Date where
  year : Int
  dayOfYear : Nat
deriving DecidableEq

namespace Date

/-- The number of days from the first day of the year 1 to the first of another year. -/
def daysBeforeYear (year : Int) : Int :=
  365 * (year - 1) + (year - 1) / 4 - (year - 1) / 100 + (year - 1) / 400

/-- The number of days from the first day of the year 1 to 1970-01-01. -/
def epoch : Int := 719162

/-- The date of a day number.  Days are divided into periods of 400, 100, 4 and 1 years, of which
the last century and the last year of a period are one day longer. -/
def ofDays (days : Int) : Date :=
  let day := days + epoch
  let inPeriod := day % 146097
  let century := min 3 (inPeriod / 36524)
  let inCentury := inPeriod - 36524 * century
  let cycle := inCentury / 1461
  let inCycle := inCentury % 1461
  let year := min 3 (inCycle / 365)
  { year := 400 * (day / 146097) + 100 * century + 4 * cycle + year + 1
    dayOfYear := (inCycle - 365 * year).toNat + 1 }

/-- The day number of a date. -/
def toDays (date : Date) : Int :=
  daysBeforeYear date.year + (date.dayOfYear - 1 : Int) - epoch

theorem daysBeforeYear_periods (period : Int) {century cycle year : Int}
    (centuries : 0 ≤ century ∧ century ≤ 3) (cycles : 0 ≤ cycle ∧ cycle ≤ 24)
    (years : 0 ≤ year ∧ year ≤ 3) :
    daysBeforeYear (400 * period + 100 * century + 4 * cycle + year + 1) =
      146097 * period + 36524 * century + 1461 * cycle + 365 * year := by
  have fourths : (400 * period + 100 * century + 4 * cycle + year) / 4 =
      100 * period + 25 * century + cycle := by omega
  have hundredths : (400 * period + 100 * century + 4 * cycle + year) / 100 =
      4 * period + century := by omega
  have periods : (400 * period + 100 * century + 4 * cycle + year) / 400 = period := by omega
  rw [daysBeforeYear, Int.add_sub_cancel, fourths, hundredths, periods]
  omega

theorem toDays_ofDays (days : Int) : (ofDays days).toDays = days := by
  simp only [toDays, ofDays, epoch]
  rw [daysBeforeYear_periods] <;> omega

def monthLengths (leap : Bool) : List Nat :=
  [31, if leap then 29 else 28, 31, 30, 31, 30, 31, 31, 30, 31, 30, 31]

/-- The month, counted from 1, and the day of the month, after `passed` months. -/
def findMonth (passed dayOfYear : Nat) : List Nat → Nat × Nat
  | [] => (passed, dayOfYear)
  | length :: rest =>
      if dayOfYear ≤ length then (passed + 1, dayOfYear)
      else findMonth (passed + 1) (dayOfYear - length) rest

def monthAndDay (date : Date) : Nat × Nat :=
  findMonth 0 date.dayOfYear (monthLengths (isLeapYear date.year))

def month (date : Date) : Nat :=
  date.monthAndDay.1

def day (date : Date) : Nat :=
  date.monthAndDay.2

def quarter (date : Date) : Nat :=
  (date.month + 2) / 3

/-- The number of days since the last Monday, 0 on a Monday. -/
def weekday (date : Date) : Nat :=
  ((date.toDays + 3) % 7).toNat

/-- The number of the week if weeks start on the day that has come `since` days ago: week 1 starts
on the first such day of the year. -/
def weekFrom (date : Date) (since : Nat) : Nat :=
  (date.dayOfYear + 6 - since) / 7

/-- The Thursday of the week that starts on the last Monday.  Its year is the year of the week. -/
def thursday (date : Date) : Date :=
  ofDays (date.toDays - date.weekday + 3)

def isoYear (date : Date) : Int :=
  date.thursday.year

/-- The number of the week in `isoYear`, counted from 1. -/
def isoWeek (date : Date) : Nat :=
  (date.thursday.dayOfYear - 1) / 7 + 1

end Date

end Stencil
