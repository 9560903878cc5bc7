import Stencil.Calendar.Moment

namespace Stencil

/-! The seconds of the calendar.

Years follow each other without a gap, so a year is reached with its first day and left with the
first day of the next one.  The moments that can be written are thereby those between two seconds.
-/

namespace Date

theorem daysBeforeYear_mono {year later : Int} (ordered : year ≤ later) :
    daysBeforeYear year ≤ daysBeforeYear later := by
  rw [daysBeforeYear, daysBeforeYear]
  omega

theorem first_day_le (days : Int) : daysBeforeYear (ofDays days).year ≤ days + epoch := by
  have back := toDays_ofDays days
  have first : 1 ≤ (ofDays days).dayOfYear := Nat.le_add_left 1 _
  rw [toDays] at back
  omega

theorem lt_daysBeforeYear {day next : Int} (period century cycle year : Int)
    (centuries : 0 ≤ century ∧ century ≤ 3) (cycles : 0 ≤ cycle ∧ cycle ≤ 24)
    (years : 0 ≤ year ∧ year ≤ 3) (same : next = 400 * period + 100 * century + 4 * cycle + year + 1)
    (before : day < 146097 * period + 36524 * century + 1461 * cycle + 365 * year) :
    day < daysBeforeYear next := by
  rw [same, daysBeforeYear_periods period centuries cycles years]
  exact before

/-- The last year of a group of 4, 100 or 400 years is followed by the first year of the next
group. -/
theorem lt_first_day_after (days : Int) :
    days + epoch < daysBeforeYear ((ofDays days).year + 1) := by
  simp only [ofDays]
  generalize days + epoch = day
  generalize inPeriod : day % 146097 = dayInPeriod
  generalize centuries : min 3 (dayInPeriod / 36524) = century
  generalize inCentury : dayInPeriod - 36524 * century = dayInCentury
  generalize cycles : dayInCentury / 1461 = cycle
  generalize years : min 3 (dayInCentury % 1461 / 365) = year
  by_cases lastOfCycle : year = 3
  · by_cases lastOfCentury : cycle = 24
    · by_cases lastOfPeriod : century = 3
      · apply lt_daysBeforeYear (day / 146097 + 1) 0 0 0 <;> omega
      · apply lt_daysBeforeYear (day / 146097) (century + 1) 0 0 <;> omega
    · apply lt_daysBeforeYear (day / 146097) century (cycle + 1) 0 <;> omega
  · apply lt_daysBeforeYear (day / 146097) century cycle (year + 1) <;> omega

theorem le_year_iff {year days : Int} :
    year ≤ (ofDays days).year ↔ daysBeforeYear year ≤ days + epoch := by
  constructor
  · intro reached
    exact Int.le_trans (daysBeforeYear_mono reached) (first_day_le days)
  · intro begun
    refine Int.not_lt.mp fun before => ?_
    have ended := daysBeforeYear_mono before
    have notEnded := lt_first_day_after days
    omega

theorem year_le_iff {year days : Int} :
    (ofDays days).year ≤ year ↔ days + epoch < daysBeforeYear (year + 1) := by
  rw [← Int.not_le, ← le_year_iff]
  omega

end Date

namespace Moment

/-- The first second of the calendar, which is also the first one of its first year. -/
def earliest : Int := -8334601228800

/-- The last second of the calendar, which is also the last one of its last year. -/
def latest : Int := 8210266876799

variable {seconds : Int} {moment : Moment}

theorem earliest_le_iff : earliest ≤ seconds ↔ firstYear ≤ (date ⟨seconds⟩).year := by
  have begins : Date.daysBeforeYear firstYear = earliest / secondsPerDay + Date.epoch := rfl
  simp only [date, Date.le_year_iff, begins, earliest, secondsPerDay]
  omega

theorem le_latest_iff : seconds ≤ latest ↔ (date ⟨seconds⟩).year ≤ lastYear := by
  have ends : Date.daysBeforeYear (lastYear + 1) = (latest + 1) / secondsPerDay + Date.epoch := rfl
  simp only [date, Date.year_le_iff, ends, latest, secondsPerDay]
  omega

theorem ofSeconds?_eq_some_iff :
    ofSeconds? seconds = some moment ↔
      (earliest ≤ seconds ∧ seconds ≤ latest) ∧ ⟨seconds⟩ = moment := by
  simp only [ofSeconds?, earliest_le_iff, le_latest_iff, Option.ite_none_right_eq_some,
    Option.some.injEq]

end Moment

end Stencil
