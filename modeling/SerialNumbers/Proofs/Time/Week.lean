/-
  SerialNumbers.Proofs.Time.Week

  Weeks and the years that they belong to.  A later week is a later one of its
  year or belongs to a later year (`Date.Valid.week_lt`), so days come in one
  order, whether they are told by year, month and day, by year and day of the
  year, or by year, week and day of the week (`Date.Valid.before_iff`,
  `Date.Valid.ordinal_lt_iff`, `Date.Valid.weekly_lt_iff`).  The year of a week
  is another one than that of a day in it at most for three days at either end of
  a year (`Date.Valid.weekYear_cases`).
-/
import Mathlib
import SerialNumbers.Proofs.Time.Field
import SerialNumbers.Proofs.Time.Zone

namespace SerialNumbers.Time.Date

/-- The date is an earlier one: by the year, then by the month, then by the day. -/
def Before (d e : Date) : Prop :=
  d.year < e.year ∨ d.year = e.year ∧ (d.month < e.month ∨ d.month = e.month ∧ d.day < e.day)

variable {d e : Date}

theorem Valid.one_le_dayNumber (h : d.Valid) : 1 ≤ d.dayNumber :=
  Nat.one_le_of_lt h.dayNumber_bounds.1

/-- The days of a year are counted from its start. -/
theorem dayNumber_eq (d : Date) : d.dayNumber = daysBeforeYear d.year + d.yearDay :=
  Nat.add_assoc ..

/-- Earlier dates are those of earlier days. -/
theorem Valid.before_iff (hd : d.Valid) (he : e.Valid) :
    d.Before e ↔ d.dayNumber < e.dayNumber := by
  constructor
  · intro hbefore
    apply Nat.lt_of_not_le
    intro hle
    have hyear := he.year_le hd hle
    rcases hbefore with hlt | ⟨hsame, hlater⟩
    · omega
    · have hmonth := he.month_le_of_year hd hle hsame.symm
      rcases hlater with hlt | ⟨hmonths, hday⟩
      · omega
      · unfold dayNumber at hle
        rw [hsame, hmonths] at hle
        omega
  · intro hlt
    rcases Nat.lt_or_eq_of_le (hd.year_le he (Nat.le_of_lt hlt)) with hyear | hyear
    · exact .inl hyear
    · refine .inr ⟨hyear, ?_⟩
      rcases Nat.lt_or_eq_of_le (hd.month_le_of_year he (Nat.le_of_lt hlt) hyear) with hmonth | hmonth
      · exact .inl hmonth
      · unfold dayNumber at hlt
        rw [hyear, hmonth] at hlt
        exact .inr ⟨hmonth, by omega⟩

/-- What grows from every day to every later one is in the order of the days. -/
theorem Valid.lt_iff_of_mono {f : Date → Nat}
    (hf : ∀ {a b : Date}, a.Valid → b.Valid → a.dayNumber < b.dayNumber → f a < f b)
    (hd : d.Valid) (he : e.Valid) : f d < f e ↔ d.dayNumber < e.dayNumber := by
  refine ⟨fun hlt => ?_, hf hd he⟩
  rcases Nat.lt_trichotomy d.dayNumber e.dayNumber with hbefore | hsame | hafter
  · exact hbefore
  · rw [hd.eq_of_dayNumber he hsame] at hlt
    exact absurd hlt (Nat.lt_irrefl _)
  · exact absurd (hf he hd hafter) (Nat.lt_asymm hlt)

/-- Dates written as one number, the day with two places and the month with two. -/
theorem Valid.written_lt_iff (hd : d.Valid) (he : e.Valid) :
    10 ^ 2 * (10 ^ 2 * d.year + d.month) + d.day < 10 ^ 2 * (10 ^ 2 * e.year + e.month) + e.day ↔
      d.Before e := by
  rw [hd.before_iff he]
  refine Valid.lt_iff_of_mono (f := fun d => 10 ^ 2 * (10 ^ 2 * d.year + d.month) + d.day) ?_ hd he
  intro a b ha hb hlt
  have hbefore := (ha.before_iff hb).mpr hlt
  have hmonth := ha.month_le
  have hday := Nat.le_trans ha.day_le (monthLength_bounds a.year a.month).2
  unfold Before at hbefore
  omega

/-- Days of one year are told by their numbers in the year. -/
theorem Valid.ordinal_lt_iff (hd : d.Valid) (he : e.Valid) :
    d.year < e.year ∨ d.year = e.year ∧ d.yearDay < e.yearDay ↔ d.Before e := by
  rw [hd.before_iff he]
  have hyears : d.year < e.year → d.dayNumber < e.dayNumber := by
    intro hlt
    apply Nat.lt_of_not_le
    intro hle
    exact absurd (he.year_le hd hle) (Nat.not_le_of_lt hlt)
  constructor
  · rintro (hlt | ⟨hsame, hlt⟩)
    · exact hyears hlt
    · rw [dayNumber_eq, dayNumber_eq, hsame]
      omega
  · intro hlt
    rcases Nat.lt_or_eq_of_le (hd.year_le he (Nat.le_of_lt hlt)) with hyear | hyear
    · exact .inl hyear
    · rw [dayNumber_eq, dayNumber_eq, hyear] at hlt
      exact .inr ⟨hyear, by omega⟩

/-! ## Weeks -/

/-- The days of the week come round every seven days. -/
theorem Valid.weekday_of_dayNumber_add (h : d.Valid) {days : Nat}
    (hdays : e.dayNumber = d.dayNumber + days) :
    e.weekday = (d.weekday - 1 + days) % 7 + 1 := by
  have hfirst := h.one_le_dayNumber
  unfold weekday
  rw [hdays]
  omega

/-- The Thursday of a week is its fourth day. -/
theorem Valid.dayNumber_thursday (h : d.Valid) :
    d.thursday.dayNumber + d.weekday = d.dayNumber + 4 := by
  have hfirst := h.one_le_dayNumber
  have hday := weekday_bounds d
  have hfourth : d.weekday ≤ d.dayNumber + 3 := by
    unfold weekday
    omega
  unfold Date.thursday
  rw [dayNumber_ofDayNumber (by omega)]
  omega

/-- Two days are of one week or their Thursdays are weeks apart. -/
theorem Valid.thursday_cases (hd : d.Valid) (he : e.Valid) (h : d.dayNumber < e.dayNumber) :
    (d.thursday = e.thursday ∧ d.weekday < e.weekday) ∨
      d.thursday.dayNumber + 7 ≤ e.thursday.dayNumber := by
  have hfourth := hd.dayNumber_thursday
  have hfourth' := he.dayNumber_thursday
  have hfirst := hd.one_le_dayNumber
  have hdays : d.weekday = (d.dayNumber + 6) % 7 + 1 := rfl
  have hdays' : e.weekday = (e.dayNumber + 6) % 7 + 1 := rfl
  rcases Nat.lt_or_ge (d.thursday.dayNumber + 6) e.thursday.dayNumber with hlater | hnear
  · exact .inr hlater
  · have hsame : d.thursday.dayNumber = e.thursday.dayNumber := by omega
    exact .inl ⟨hd.thursday.eq_of_dayNumber he.thursday hsame, by omega⟩

/-- A later week is a later one of its year, or belongs to a later year. -/
theorem Valid.week_lt (hd : d.Valid) (he : e.Valid)
    (h : d.thursday.dayNumber + 7 ≤ e.thursday.dayNumber) :
    d.weekYear < e.weekYear ∨ d.weekYear = e.weekYear ∧ d.week < e.week := by
  have hyears : d.weekYear ≤ e.weekYear :=
    hd.thursday.year_le he.thursday (Nat.le_trans (Nat.le_add_right _ 7) h)
  rcases Nat.lt_or_eq_of_le hyears with hyear | hyear
  · exact .inl hyear
  · have hfirst := hd.thursday.yearDay_bounds.1
    have hsame : d.thursday.year = e.thursday.year := hyear
    rw [dayNumber_eq, dayNumber_eq, hsame] at h
    refine .inr ⟨hyear, ?_⟩
    unfold week
    omega

/-- Days written as one number: the year of the week, the week with two places and the day of
    the week with one. -/
theorem Valid.weekly_lt_iff (hd : d.Valid) (he : e.Valid) :
    10 ^ 1 * (10 ^ 2 * d.weekYear + d.week) + d.weekday <
        10 ^ 1 * (10 ^ 2 * e.weekYear + e.week) + e.weekday ↔ d.Before e := by
  rw [hd.before_iff he]
  refine Valid.lt_iff_of_mono
    (f := fun d => 10 ^ 1 * (10 ^ 2 * d.weekYear + d.week) + d.weekday) ?_ hd he
  intro a b ha hb hlt
  have hweek := ha.week_bounds.2
  have hday := (weekday_bounds a).2
  rcases ha.thursday_cases hb hlt with ⟨hthursday, hlater⟩ | hthursday
  · have hyears : a.weekYear = b.weekYear := congrArg Date.year hthursday
    have hweeks : a.week = b.week := congrArg (fun t : Date => (t.yearDay - 1) / 7 + 1) hthursday
    omega
  · have hlater := ha.week_lt hb hthursday
    omega

/-! ## Years of weeks -/

/-- The last three days of a year are in its December. -/
theorem Valid.december (h : d.Valid) (hlast : daysBeforeYear (d.year + 1) < d.dayNumber + 3) :
    d.month = 12 ∧ 29 ≤ d.day := by
  have hlength : monthLength d.year 12 = 31 := rfl
  have hyear := daysBeforeMonth_thirteen d.year
  have hdecember : daysBeforeMonth d.year 13 = daysBeforeMonth d.year 12 + monthLength d.year 12 :=
    daysBeforeMonth_succ d.year (Nat.le_add_left 1 11)
  rw [daysBeforeYear_succ h.year] at hlast
  have hmonth : d.month = 12 := by
    apply Nat.le_antisymm h.month_le
    apply Nat.le_of_not_lt
    intro hlt
    -- Before December there are more than three days to come.
    have hbefore := daysBeforeMonth_le d.year (show d.month + 1 ≤ 12 by omega)
    rw [daysBeforeMonth_succ d.year h.month] at hbefore
    have hday := h.day_le
    unfold dayNumber at hlast
    omega
  refine ⟨hmonth, ?_⟩
  unfold dayNumber at hlast
  rw [hmonth] at hlast
  omega

/-- The first three days of a year are in its January. -/
theorem Valid.january (h : d.Valid) (hfirst : d.dayNumber ≤ daysBeforeYear d.year + 3) :
    d.month = 1 ∧ d.day ≤ 3 := by
  have hjanuary : daysBeforeMonth d.year 2 = 31 := rfl
  have hmonth : d.month = 1 := by
    apply Nat.le_antisymm _ h.month
    apply Nat.le_of_not_lt
    intro hlt
    have hafter := daysBeforeMonth_le d.year (show 2 ≤ d.month by omega)
    have hday := h.day
    unfold dayNumber at hfirst
    omega
  refine ⟨hmonth, ?_⟩
  unfold dayNumber at hfirst
  rw [hmonth] at hfirst
  have hnone : daysBeforeMonth d.year 1 = 0 := rfl
  omega

/-- The week of a day belongs to the year of the day, but for the first three days of January,
    which may still be of the year before, and the last three of December, which may already be
    of the year after. -/
theorem Valid.weekYear_cases (h : d.Valid) :
    d.weekYear = d.year ∨ (d.weekYear + 1 = d.year ∧ d.month = 1 ∧ d.day ≤ 3) ∨
      (d.weekYear = d.year + 1 ∧ d.month = 12 ∧ 29 ≤ d.day) := by
  have hday := weekday_bounds d
  have hthursday := h.dayNumber_thursday
  have hbounds := h.dayNumber_bounds
  have hbounds' := h.thursday.dayNumber_bounds
  have hlength := yearLength_ge d.year
  have hyear := daysBeforeYear_succ h.year
  have hone := h.thursday.year
  show d.thursday.year = d.year ∨ _ ∨ _
  rcases Nat.lt_trichotomy d.thursday.year d.year with hlt | heq | hgt
  · -- The Thursday is in the year before, at most three days back.
    have hyears : daysBeforeYear (d.thursday.year + 1) ≤ daysBeforeYear d.year :=
      daysBeforeYear_le hlt
    have hprevious : d.year ≤ d.thursday.year + 1 := by
      apply Nat.le_of_not_lt
      intro hfar
      have hgap := daysBeforeYear_le (show d.thursday.year + 1 + 1 ≤ d.year from hfar)
      have hlong := yearLength_ge (d.thursday.year + 1)
      rw [daysBeforeYear_succ (Nat.le_add_left 1 _)] at hgap
      omega
    exact .inr (.inl ⟨Nat.le_antisymm hlt hprevious, h.january (by omega)⟩)
  · exact .inl heq
  · -- The Thursday is in the year after, at most three days on.
    have hyears : daysBeforeYear (d.year + 1) ≤ daysBeforeYear d.thursday.year :=
      daysBeforeYear_le hgt
    have hnext : d.thursday.year ≤ d.year + 1 := by
      apply Nat.le_of_not_lt
      intro hfar
      have hgap := daysBeforeYear_le (show d.year + 1 + 1 ≤ d.thursday.year from hfar)
      have hlong := yearLength_ge (d.year + 1)
      rw [daysBeforeYear_succ (Nat.le_add_left 1 _)] at hgap
      omega
    exact .inr (.inr ⟨Nat.le_antisymm hnext hgt, h.december (by omega)⟩)

end SerialNumbers.Time.Date
