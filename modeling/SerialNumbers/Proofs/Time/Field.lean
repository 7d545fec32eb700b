/-
  SerialNumbers.Proofs.Time.Field

  The numbers that a clock and a calendar show, and how large they get.  For
  every reading within the calendar the week of a day, too, belongs to a year of
  four digits at most (`Time.Moment.weekYear_le`), as the last Thursday of the
  calendar is before its end.
-/
import SerialNumbers.Proofs.Period

namespace SerialNumbers.Time

namespace Date

variable {d : Date}

/-- A date is within its year. -/
theorem Valid.yearDay_bounds (h : d.Valid) : 1 ≤ d.yearDay ∧ d.yearDay ≤ 366 := by
  have hbounds := h.dayNumber_bounds
  have hlength : yearLength d.year ≤ 366 := by
    unfold yearLength
    split <;> decide
  rw [daysBeforeYear_succ h.year] at hbounds
  unfold dayNumber at hbounds
  unfold yearDay
  omega

theorem weekday_bounds (d : Date) : 1 ≤ d.weekday ∧ d.weekday ≤ 7 := by
  unfold weekday
  omega

theorem Valid.quarter_bounds (h : d.Valid) : 1 ≤ d.quarter ∧ d.quarter ≤ 4 := by
  have hmonth := h.month_le
  unfold quarter
  omega

theorem Valid.thursday (h : d.Valid) : d.thursday.Valid := by
  have hday := h.dayNumber_bounds.1
  refine (ofDayNumber_spec ?_).1
  unfold weekday
  omega

theorem Valid.week_bounds (h : d.Valid) : 1 ≤ d.week ∧ d.week ≤ 53 := by
  have hyearDay := h.thursday.yearDay_bounds
  unfold week
  omega

/-- The last day of the calendar comes after the Thursday of its week. -/
theorem weekYear_le (h : 1 ≤ d.dayNumber) (hlast : d.dayNumber ≤ lastDayNumber) :
    d.weekYear ≤ 9999 := by
  unfold lastDayNumber at hlast
  refine year_ofDayNumber_le ?_ ?_
  · unfold weekday
    omega
  · unfold weekday lastDayNumber
    omega

end Date

namespace Moment

variable {m : Moment}

theorem secondOfDay_lt (m : Moment) : m.secondOfDay < 86400 := by
  have htime : m.timeOfDay < 86400 * 1000000 := by
    have hday : m.reading % microsPerDay < microsPerDay := Int.emod_lt_of_pos _ (by decide)
    have hmicros : microsPerDay = 86400 * 1000000 := rfl
    unfold timeOfDay
    omega
  unfold secondOfDay
  omega

theorem hour_lt (m : Moment) : m.hour < 24 := by
  have hsecond := m.secondOfDay_lt
  unfold hour
  omega

theorem minute_lt (m : Moment) : m.minute < 60 :=
  Nat.mod_lt _ (by decide)

theorem second_lt (m : Moment) : m.second < 60 :=
  Nat.mod_lt _ (by decide)

theorem weekYear_le (h : inRange m.reading = true) : m.date.weekYear ≤ 9999 := by
  have hday : m.date.dayNumber = m.dayNumber := Date.dayNumber_ofDayNumber (Nat.le_add_left 1 _)
  refine Date.weekYear_le ?_ ?_
  · rw [hday]
    exact Nat.le_add_left 1 _
  · rw [hday]
    exact dayNumber_le h

end Moment

end SerialNumbers.Time
