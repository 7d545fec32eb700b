/-
  SerialNumbers.Proofs.Time.Calendar

  Days and dates.  Years and months follow each other without a gap, so every
  day of the calendar has one date and is the day of that date
  (`Date.dayNumber_ofDayNumber`), and later days have later dates.
-/
import SerialNumbers.Time.Calendar

namespace SerialNumbers.Time

/-! ## Years and months -/

theorem isLeap_iff (year : Nat) : isLeap year = true ↔ 4 ∣ year ∧ (¬ 100 ∣ year ∨ 400 ∣ year) := by
  simp [isLeap, Nat.dvd_iff_mod_eq_zero]

/-- A year starts where the one before it ends. -/
theorem daysBeforeYear_succ {year : Nat} (h : 1 ≤ year) :
    daysBeforeYear (year + 1) = daysBeforeYear year + yearLength year := by
  obtain ⟨y, rfl⟩ : ∃ y, year = y + 1 := ⟨year - 1, by omega⟩
  have hskipped : y / 100 ≤ y / 4 := by omega
  -- A quotient grows by one just where the divisor divides the successor.
  unfold daysBeforeYear yearLength
  rw [Nat.add_sub_cancel, Nat.add_sub_cancel, Nat.succ_div, Nat.succ_div, Nat.succ_div]
  simp only [isLeap_iff]
  have h100 : 400 ∣ y + 1 → 100 ∣ y + 1 := Nat.dvd_trans ⟨4, rfl⟩
  have h4 : 100 ∣ y + 1 → 4 ∣ y + 1 := Nat.dvd_trans ⟨25, rfl⟩
  generalize y / 4 = a, y / 100 = b, y / 400 = c at hskipped ⊢
  -- Every 400th year is a leap year, no other 100th is, and every other fourth is.
  by_cases hr : 400 ∣ y + 1
  · have hq := h100 hr
    have hp := h4 hq
    simp only [hp, hq, hr, if_true, not_true, false_or, and_self]
    clear hp hq hr h100 h4
    omega
  · by_cases hq : 100 ∣ y + 1
    · have hp := h4 hq
      simp only [hp, hq, hr, if_true, if_false, not_true, or_self, and_false]
      clear hp hq hr h100 h4
      omega
    · by_cases hp : 4 ∣ y + 1
      · simp only [hp, hq, hr, if_true, if_false, not_false_eq_true, true_or, and_self]
        clear hp hq hr h100 h4
        omega
      · simp only [hp, hq, hr, if_false, false_and]
        clear hp hq hr h100 h4
        omega

theorem daysBeforeYear_le {year year' : Nat} (h : year ≤ year') :
    daysBeforeYear year ≤ daysBeforeYear year' := by
  induction h with
  | refl => exact Nat.le_refl _
  | @step y hle ih =>
    cases y with
    | zero => exact ih
    | succ y =>
      show daysBeforeYear year ≤ daysBeforeYear (y + 1 + 1)
      rw [daysBeforeYear_succ (Nat.le_add_left 1 y)]
      exact Nat.le_trans ih (Nat.le_add_right _ _)

/-- A year has 146097 days in 400 on average, and the count of days keeps close to that. -/
theorem daysBeforeYear_mean (n : Nat) :
    400 * daysBeforeYear (n + 1) ≤ 146097 * n + 396 ∧
      146097 * n ≤ 400 * daysBeforeYear (n + 1) + 699 := by
  have hquarter : 4 * (n / 4) ≤ n ∧ n ≤ 4 * (n / 4) + 3 := by omega
  have hcentury : 100 * (n / 100) ≤ n ∧ n ≤ 100 * (n / 100) + 99 := by omega
  have hcycle : 400 * (n / 400) ≤ n ∧ n ≤ 400 * (n / 400) + 399 := by omega
  -- Each of the quotients is off by less than one.
  unfold daysBeforeYear
  rw [Nat.add_sub_cancel]
  generalize n / 4 = a, n / 100 = b, n / 400 = c at *
  omega

/-- A month has at least one day and at most 31. -/
theorem monthLength_bounds (year month : Nat) :
    1 ≤ monthLength year month ∧ monthLength year month ≤ 31 := by
  unfold monthLength
  split
  · split
    · decide
    · decide
  · split
    · decide
    · decide

/-- A month starts where the one before it ends. -/
theorem daysBeforeMonth_succ (year : Nat) {month : Nat} (h : 1 ≤ month) :
    daysBeforeMonth year (month + 1) = daysBeforeMonth year month + monthLength year month := by
  obtain ⟨m, rfl⟩ : ∃ m, month = m + 1 := ⟨month - 1, by omega⟩
  rfl

theorem daysBeforeMonth_le (year : Nat) {month month' : Nat} (h : month ≤ month') :
    daysBeforeMonth year month ≤ daysBeforeMonth year month' := by
  induction h with
  | refl => exact Nat.le_refl _
  | @step m hle ih =>
    by_cases hm : 1 ≤ m
    · rw [daysBeforeMonth_succ year hm]
      omega
    · have hzero : m = 0 := by omega
      subst hzero
      exact ih

/-- Twelve months are a year. -/
theorem daysBeforeMonth_thirteen (year : Nat) : daysBeforeMonth year 13 = yearLength year := by
  unfold yearLength
  cases h : isLeap year <;> simp [daysBeforeMonth, monthLength, h]

namespace Date

/-- The calendar has the date, whatever the year. -/
structure Valid (d : Date) : Prop where
  year : 1 ≤ d.year
  month : 1 ≤ d.month
  month_le : d.month ≤ 12
  day : 1 ≤ d.day
  day_le : d.day ≤ monthLength d.year d.month

/-! ## Later days -/

/-- A date lies in its year. -/
theorem Valid.dayNumber_bounds {d : Date} (h : d.Valid) :
    daysBeforeYear d.year < d.dayNumber ∧ d.dayNumber ≤ daysBeforeYear (d.year + 1) := by
  have hmonth := daysBeforeMonth_succ d.year h.month
  have hyear : daysBeforeMonth d.year (d.month + 1) ≤ yearLength d.year := by
    rw [← daysBeforeMonth_thirteen]
    exact daysBeforeMonth_le d.year (Nat.succ_le_succ h.month_le)
  have hday := h.day
  have hdayLe := h.day_le
  rw [daysBeforeYear_succ h.year]
  unfold dayNumber
  omega

/-- A later day is in no earlier year. -/
theorem Valid.year_le {a b : Date} (ha : a.Valid) (hb : b.Valid)
    (h : a.dayNumber ≤ b.dayNumber) : a.year ≤ b.year := by
  apply Nat.le_of_not_lt
  intro hlt
  have hyears : daysBeforeYear (b.year + 1) ≤ daysBeforeYear a.year :=
    daysBeforeYear_le (by omega)
  have hafter := ha.dayNumber_bounds.1
  have hbefore := hb.dayNumber_bounds.2
  omega

/-- A later day of a year is in no earlier month. -/
theorem Valid.month_le_of_year {a b : Date} (ha : a.Valid) (hb : b.Valid)
    (h : a.dayNumber ≤ b.dayNumber) (hyear : a.year = b.year) : a.month ≤ b.month := by
  apply Nat.le_of_not_lt
  intro hlt
  have hmonths : daysBeforeMonth b.year (b.month + 1) ≤ daysBeforeMonth b.year a.month :=
    daysBeforeMonth_le b.year (by omega)
  rw [daysBeforeMonth_succ b.year hb.month] at hmonths
  have hday := ha.day
  have hdayLe := hb.day_le
  unfold dayNumber at h
  rw [hyear] at h
  omega

/-- Two dates of one day are the same. -/
theorem Valid.eq_of_dayNumber {a b : Date} (ha : a.Valid) (hb : b.Valid)
    (h : a.dayNumber = b.dayNumber) : a = b := by
  have hle : a.dayNumber ≤ b.dayNumber := Nat.le_of_eq h
  have hge : b.dayNumber ≤ a.dayNumber := Nat.le_of_eq h.symm
  have hyear : a.year = b.year := Nat.le_antisymm (ha.year_le hb hle) (hb.year_le ha hge)
  have hmonth : a.month = b.month :=
    Nat.le_antisymm (ha.month_le_of_year hb hle hyear) (hb.month_le_of_year ha hge hyear.symm)
  have hday : a.day = b.day := by
    unfold dayNumber at h
    rw [hyear, hmonth] at h
    omega
  cases a
  cases b
  exact (mk.injEq ..).mpr ⟨hyear, hmonth, hday⟩

/-! ## The date of a day -/

/-- The guess is at most one year off, and that is put right. -/
theorem yearOf_bounds {number : Nat} (h : 1 ≤ number) :
    1 ≤ yearOf number ∧ daysBeforeYear (yearOf number) < number ∧
      number ≤ daysBeforeYear (yearOf number + 1) := by
  unfold yearOf
  -- The guess divides by the mean length of a year.
  have hguess : 146097 * (400 * (number - 1) / 146097) ≤ 400 * (number - 1) ∧
      400 * (number - 1) < 146097 * (400 * (number - 1) / 146097) + 146097 := by omega
  generalize 400 * (number - 1) / 146097 = n at *
  dsimp only
  split
  · rename_i hearly
    cases n with
    | zero =>
      have hfirst : daysBeforeYear (0 + 1) = 0 := rfl
      omega
    | succ n =>
      have hmean := (daysBeforeYear_mean n).1
      rw [Nat.add_sub_cancel]
      exact ⟨Nat.le_add_left 1 n, by omega, hearly⟩
  · rename_i hafter
    split
    · rename_i hlate
      have hmean := (daysBeforeYear_mean (n + 1 + 1)).2
      exact ⟨Nat.le_add_left 1 (n + 1), hlate, by omega⟩
    · rename_i hbefore
      exact ⟨Nat.le_add_left 1 n, by omega, by omega⟩

/-- The months that are passed have gone by, and the month that is found has the day. -/
theorem monthDay_bounds {year fuel month n : Nat} (hmonth : 1 ≤ month)
    (hn : daysBeforeMonth year month + n < daysBeforeMonth year (month + fuel + 1)) :
    let found := monthDay year fuel month n
    month ≤ found.1 ∧ found.1 ≤ month + fuel ∧ 1 ≤ found.2 ∧
      found.2 ≤ monthLength year found.1 ∧
      daysBeforeMonth year found.1 + found.2 = daysBeforeMonth year month + n + 1 := by
  -- One month is passed for each unit of fuel, and the days before it are taken from `n`.
  induction fuel generalizing month n with
  | zero =>
    rw [Nat.add_zero, daysBeforeMonth_succ year hmonth] at hn
    refine ⟨Nat.le_refl _, Nat.le_refl _, Nat.succ_pos n, ?_, rfl⟩
    show n + 1 ≤ monthLength year month
    omega
  | succ fuel ih =>
    have hnext := daysBeforeMonth_succ year hmonth
    unfold monthDay
    split
    · rename_i hlt
      exact ⟨Nat.le_refl _, Nat.le_add_right _ _, Nat.succ_pos n, hlt, rfl⟩
    · rename_i hge
      have hleft : daysBeforeMonth year (month + 1) + (n - monthLength year month) <
          daysBeforeMonth year (month + 1 + fuel + 1) := by
        rw [Nat.add_right_comm month 1 fuel]
        have hshift : month + (fuel + 1) + 1 = month + fuel + 1 + 1 := rfl
        rw [hshift] at hn
        omega
      obtain ⟨hlow, hhigh, hday, hdayLe, hsum⟩ := ih (by omega) hleft
      exact ⟨by omega, by omega, hday, hdayLe, by omega⟩

/-- Every day has a date of the calendar, and is the day of that date. -/
theorem ofDayNumber_spec {number : Nat} (h : 1 ≤ number) :
    (ofDayNumber number).Valid ∧ (ofDayNumber number).dayNumber = number := by
  obtain ⟨hyear, hafter, hbefore⟩ := yearOf_bounds h
  have hlength := daysBeforeYear_succ hyear
  have hinside : daysBeforeMonth (yearOf number) 1 + (number - daysBeforeYear (yearOf number) - 1) <
      daysBeforeMonth (yearOf number) (1 + 11 + 1) := by
    show 0 + _ < daysBeforeMonth (yearOf number) 13
    rw [daysBeforeMonth_thirteen]
    omega
  -- Twelve units of fuel are enough, since the day is within the twelve months.
  obtain ⟨hmonth, hmonthLe, hday, hdayLe, hsum⟩ := monthDay_bounds (Nat.le_refl 1) hinside
  refine ⟨⟨hyear, hmonth, hmonthLe, hday, hdayLe⟩, ?_⟩
  show daysBeforeYear (yearOf number) +
    daysBeforeMonth (yearOf number) (monthDay (yearOf number) 11 1 _).1 +
    (monthDay (yearOf number) 11 1 _).2 = number
  rw [Nat.add_assoc, hsum]
  show _ + (0 + _ + 1) = number
  omega

theorem dayNumber_ofDayNumber {number : Nat} (h : 1 ≤ number) :
    (ofDayNumber number).dayNumber = number := (ofDayNumber_spec h).2

/-- The calendar ends with year 9999. -/
theorem year_ofDayNumber_le {number : Nat} (h : 1 ≤ number) (hlast : number ≤ lastDayNumber) :
    (ofDayNumber number).year ≤ 9999 := by
  obtain ⟨-, hafter, -⟩ := yearOf_bounds h
  apply Nat.le_of_not_lt
  intro hlt
  have hyear : 10000 ≤ yearOf number := hlt
  have hdays : daysBeforeYear 10000 ≤ daysBeforeYear (yearOf number) := daysBeforeYear_le hyear
  have hend : daysBeforeYear 10000 = lastDayNumber := rfl
  omega

end Date

end SerialNumbers.Time
