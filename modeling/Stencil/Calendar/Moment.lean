import Stencil.Calendar.Date

namespace Stencil

/-! Moments: seconds of universal time. -/

/-- A second, counted from the start of 1970. -/
structure Moment where
  seconds : Int
deriving DecidableEq

namespace Moment

def secondsPerDay : Int := 86400

def date (moment : Moment) : Date :=
  Date.ofDays (moment.seconds / secondsPerDay)

def secondOfDay (moment : Moment) : Nat :=
  (moment.seconds % secondsPerDay).toNat

def hour (moment : Moment) : Nat :=
  moment.secondOfDay / 3600

/-- The hour on a dial: 12, 1, 2 and so on up to 11. -/
def hour12 (moment : Moment) : Nat :=
  (moment.hour + 11) % 12 + 1

def afternoon (moment : Moment) : Bool :=
  12 ≤ moment.hour

def minute (moment : Moment) : Nat :=
  moment.secondOfDay / 60 % 60

def second (moment : Moment) : Nat :=
  moment.secondOfDay % 60

def firstYear : Int := -262143

def lastYear : Int := 262142

/-- The moment of a count of seconds, if its year is in the range of the calendar. -/
def ofSeconds? (seconds : Int) : Option Moment :=
  let year := (date ⟨seconds⟩).year
  if firstYear ≤ year ∧ year ≤ lastYear then some ⟨seconds⟩ else none

end Moment

end Stencil
