/-
  SerialNumbers.Proofs.Variable.Chronology

  Dates as patterns show them.  The plain values of the engine's variables put
  one behind the other come in the order of the dates, in the calendar of months
  as in the calendar of weeks, as long as the year of the week stands with the
  week (`Builtin.values_chronological`).
-/
import SerialNumbers.Proofs.Text.Order
import SerialNumbers.Proofs.Time.Week
import SerialNumbers.Variable.Builtin

namespace SerialNumbers

open Text Time

namespace Builtin

/-- What the plain values of two occasions tell of their dates. -/
structure Chronological (o p : Occasion) : Prop where
  /-- Weeks with their years, and days of the week behind them. -/
  weekly : weekYear.value o ++ week.value o ++ dayOfWeek.value o <
      weekYear.value p ++ week.value p ++ dayOfWeek.value p ↔
    o.moment.date.Before p.moment.date
  monthly : year.value o ++ month.value o ++ day.value o <
      year.value p ++ month.value p ++ day.value p ↔ o.moment.date.Before p.moment.date
  /-- Days of the year are no texts of one width, and are read as numbers. -/
  ordinal : ∃ m n, digitsValue? (dayOfYear.value o).toList = some m ∧
    digitsValue? (dayOfYear.value p).toList = some n ∧
    (year.value o < year.value p ∨ year.value o = year.value p ∧ m < n ↔
      o.moment.date.Before p.moment.date)
  weeks : ∃ n, (week.value o).length = 2 ∧ digitsValue? (week.value o).toList = some n ∧
    1 ≤ n ∧ n ≤ 53
  /-- After some days the day of the week is as many further, Monday following Sunday. -/
  weekdays : ∃ m n, digitsValue? (dayOfWeek.value o).toList = some m ∧
    digitsValue? (dayOfWeek.value p).toList = some n ∧ 1 ≤ m ∧ m ≤ 7 ∧
    ∀ days, p.moment.date.dayNumber = o.moment.date.dayNumber + days → n = (m - 1 + days) % 7 + 1
  years : ∃ m n, digitsValue? (weekYear.value o).toList = some m ∧
    digitsValue? (year.value o).toList = some n ∧
    (m = n ∨ (m + 1 = n ∧ o.moment.date.month = 1 ∧ o.moment.date.day ≤ 3) ∨
      (m = n + 1 ∧ o.moment.date.month = 12 ∧ 29 ≤ o.moment.date.day))

variable {o p : Occasion}

/-! ## Values of one width -/

theorem shows_year (h : Moment.inRange o.moment.reading = true) :
    Shows (year.value o) 4 o.moment.date.year :=
  shows_natText (by decide) (Nat.lt_succ_of_le (Moment.year_le h))

theorem shows_weekYear (h : Moment.inRange o.moment.reading = true) :
    Shows (weekYear.value o) 4 o.moment.date.weekYear :=
  shows_natText (by decide) (Nat.lt_succ_of_le (Moment.weekYear_le h))

theorem shows_month (o : Occasion) : Shows (month.value o) 2 o.moment.date.month := by
  have hmonth := o.moment.valid_date.month_le
  exact shows_natText (by decide) (by omega)

theorem shows_day (o : Occasion) : Shows (day.value o) 2 o.moment.date.day := by
  have hday := o.moment.valid_date.day_le
  have hlength := (monthLength_bounds o.moment.date.year o.moment.date.month).2
  exact shows_natText (by decide) (by omega)

theorem shows_week (o : Occasion) : Shows (week.value o) 2 o.moment.date.week := by
  have hweek := o.moment.valid_date.week_bounds.2
  exact shows_natText (by decide) (by omega)

theorem shows_dayOfWeek (o : Occasion) : Shows (dayOfWeek.value o) 1 o.moment.date.weekday := by
  have hday := (Date.weekday_bounds o.moment.date).2
  show Shows (toString o.moment.date.weekday) 1 _
  rw [← natText_one]
  exact shows_natText (by decide) (by omega)

/-- The day of the year is read from its text, whatever its width. -/
theorem read_dayOfYear (o : Occasion) :
    digitsValue? (dayOfYear.value o).toList = some o.moment.date.yearDay := by
  have hday := o.moment.valid_date.yearDay_bounds.2
  have hdigits : (dayOfYear.value o).toList = Nat.toDigits 10 o.moment.date.yearDay :=
    Nat.toList_repr
  rw [hdigits, digitsValue?_of_digits fun c hc =>
    Nat.isDigit_of_mem_toDigits (by decide) (by decide) hc, Nat.ofDigitChars_ten_toDigits]

/-! ## Order -/

/-- On any two occasions within the calendar the plain values tell the order of the dates: year,
    month and day as much as year of the week, week and day of the week, and year and day of
    the year. -/
theorem values_chronological (ho : Moment.inRange o.moment.reading = true)
    (hp : Moment.inRange p.moment.reading = true) : Chronological o p := by
  have hd := o.moment.valid_date
  have he := p.moment.valid_date
  refine ⟨?_, ?_, ?_, ?_, ?_, ?_⟩
  · rw [((shows_weekYear ho).append (shows_week o)).append (shows_dayOfWeek o) |>.lt_iff
      (((shows_weekYear hp).append (shows_week p)).append (shows_dayOfWeek p))]
    exact hd.weekly_lt_iff he
  · rw [((shows_year ho).append (shows_month o)).append (shows_day o) |>.lt_iff
      (((shows_year hp).append (shows_month p)).append (shows_day p))]
    exact hd.written_lt_iff he
  · have hsame : year.value o = year.value p ↔ o.moment.date.year = p.moment.date.year := by
      refine ⟨fun h => ?_, congrArg (natText 4)⟩
      exact Option.some.inj ((shows_year ho).read.symm.trans (h ▸ (shows_year hp).read))
    refine ⟨_, _, read_dayOfYear o, read_dayOfYear p, ?_⟩
    rw [(shows_year ho).lt_iff (shows_year hp), hsame]
    exact hd.ordinal_lt_iff he
  · exact ⟨_, (shows_week o).length, (shows_week o).read, hd.week_bounds⟩
  · have hbounds := Date.weekday_bounds o.moment.date
    exact ⟨_, _, (shows_dayOfWeek o).read, (shows_dayOfWeek p).read, hbounds.1, hbounds.2,
      fun days hdays => hd.weekday_of_dayNumber_add hdays⟩
  · exact ⟨_, _, (shows_weekYear ho).read, (shows_year ho).read, hd.weekYear_cases⟩

/-- The last Sunday and the last Monday of 2018: the Monday is in the first week of 2019. -/
theorem values_chronological_new_week :
    let sunday : Occasion := ⟨⟨Moment.midnight ⟨2018, 12, 30⟩, none, false⟩, .zero, 1, 5,
      Number.writable_one, Number.writable_five⟩
    let monday : Occasion := ⟨⟨Moment.midnight ⟨2018, 12, 31⟩, none, false⟩, .zero, 1, 5,
      Number.writable_one, Number.writable_five⟩
    Moment.inRange sunday.moment.reading = true ∧ Moment.inRange monday.moment.reading = true ∧
      weekYear.value sunday ++ week.value sunday ++ dayOfWeek.value sunday = "2018527" ∧
      weekYear.value monday ++ week.value monday ++ dayOfWeek.value monday = "2019011" ∧
      Chronological sunday monday := by
  intro sunday monday
  have hsunday : Moment.inRange sunday.moment.reading = true := by decide +kernel
  have hmonday : Moment.inRange monday.moment.reading = true := by decide +kernel
  exact ⟨hsunday, hmonday, by decide +kernel, by decide +kernel,
    values_chronological hsunday hmonday⟩

end Builtin

end SerialNumbers
