/-
  SerialNumbers.Proofs.Period

  Periods as dates.  A period is known by its first date on the clock of a
  zone: two moments lie in one period exactly when those are the same
  (`Period.sameSpan_eq_ok`), and a later date is in no earlier period.  Without
  a limit a counter starts again exactly when the period is another one than
  that of its reference.

  A moment that is on the clock of the zone already keeps its date, even where
  the clock skips its reading; all others have the date of their instant
  (`Time.Moment.IsReal`).
-/
import SerialNumbers.Proofs.Store.Action
import SerialNumbers.Proofs.Time.Calendar
import SerialNumbers.Reset

namespace SerialNumbers

open Time

/-! ## Dates of moments -/

namespace Time

/-- The date that the clock of a zone shows at a moment, if it shows any. -/
def Moment.dateIn (zone : Zone) (m : Moment) : Date :=
  match m.inZone zone with
  | .ok here => here.date
  | .error _ => m.date

theorem Moment.valid_date (m : Moment) : m.date.Valid :=
  (Date.ofDayNumber_spec (Nat.le_add_left 1 _)).1

theorem Moment.valid_dateIn (zone : Zone) (m : Moment) : (m.dateIn zone).Valid := by
  unfold dateIn
  split
  · exact valid_date _
  · exact valid_date m

/-! ## Moments on the clock of a zone -/

section

variable {zone : Zone} {m here shown : Moment}

theorem Moment.shownIn_eq_ok : m.shownIn zone = .ok shown ↔ inRange m.instant = true ∧
    inRange shown.reading = true ∧ shown =
      ⟨m.instant + zone.offsetAt (m.instant / microsPerSecond) * microsPerSecond, some zone,
        zone.isLatePass (m.instant / microsPerSecond)⟩ := by
  simp only [shownIn]
  split
  · rename_i hrange
    obtain ⟨hinstant, hreading⟩ := Bool.and_eq_true_iff.mp hrange
    constructor
    · rintro h
      cases h
      exact ⟨hinstant, hreading, rfl⟩
    · rintro ⟨-, -, rfl⟩
      rfl
  · rename_i hrange
    refine ⟨fun h => (by cases h), ?_⟩
    rintro ⟨hinstant, hreading, rfl⟩
    exact absurd (Bool.and_eq_true_iff.mpr ⟨hinstant, hreading⟩) hrange

/-- A moment that is on the clock of a zone is kept; for any other it is told what the clock
    shows. -/
theorem Moment.inZone_eq_ok_iff : m.inZone zone = .ok here ↔
    (m.isOn zone = true ∧ inRange m.reading = true ∧ m = here) ∨
      (m.isOn zone = false ∧ m.shownIn zone = .ok here) := by
  unfold inZone
  cases m.isOn zone <;> cases inRange m.reading <;> simp

theorem Moment.zone_of_isOn (h : m.isOn zone = true) : m.zone = some zone := by
  cases zone with
  | fixed => cases h
  | seasonal => exact eq_of_beq h

/-- The clock of a zone shows its zone, and a reading within the calendar. -/
theorem Moment.inZone_eq_ok (h : m.inZone zone = .ok here) :
    here.zone = some zone ∧ inRange here.reading = true := by
  rcases inZone_eq_ok_iff.mp h with ⟨hon, hrange, rfl⟩ | ⟨-, hshown⟩
  · exact ⟨zone_of_isOn hon, hrange⟩
  · obtain ⟨-, hrange, rfl⟩ := shownIn_eq_ok.mp hshown
    exact ⟨rfl, hrange⟩

/-- A moment that is on the clock of a zone has a reading that this clock shows, at an instant of
    the calendar, and not one that it skips.  Moments on other clocks always do. -/
def Moment.IsReal (zone : Zone) (m : Moment) : Prop :=
  m.isOn zone = true → ∃ shown, m.shownIn zone = .ok shown ∧ shown.reading = m.reading

instance (zone : Zone) (m : Moment) : Decidable (m.IsReal zone) :=
  decidable_of_iff
    (m.isOn zone = true → (m.shownIn zone).toOption.any (·.reading == m.reading) = true) <| by
      unfold Moment.IsReal
      cases m.shownIn zone <;> simp [Except.toOption]

theorem Moment.isReal_of_zone (h : m.zone ≠ some zone) : m.IsReal zone :=
  fun hon => absurd (zone_of_isOn hon) h

/-- What the clock of a zone shows is read off the instant, unless the moment is on that clock and
    has a reading that it skips. -/
theorem Moment.IsReal.exists_shownIn (hreal : m.IsReal zone) (h : m.inZone zone = .ok here) :
    ∃ shown, m.shownIn zone = .ok shown ∧ shown.reading = here.reading := by
  rcases inZone_eq_ok_iff.mp h with ⟨hon, -, rfl⟩ | ⟨-, hshown⟩
  · exact hreal hon
  · exact ⟨here, hshown, rfl⟩

/-- And what can be shown is on the clock. -/
theorem Moment.IsReal.exists_inZone (hreal : m.IsReal zone) (h : m.shownIn zone = .ok shown) :
    ∃ here, m.inZone zone = .ok here := by
  cases hon : m.isOn zone with
  | false => exact ⟨shown, inZone_eq_ok_iff.mpr (.inr ⟨hon, h⟩)⟩
  | true =>
    obtain ⟨shown, hshown, hreading⟩ := hreal hon
    exact ⟨m, inZone_eq_ok_iff.mpr
      (.inl ⟨hon, hreading ▸ (shownIn_eq_ok.mp hshown).2.1, rfl⟩)⟩

/-- The clock of a zone is ahead of universal time by its offset at the instant. -/
theorem Moment.IsReal.reading_of_inZone (hreal : m.IsReal zone) (h : m.inZone zone = .ok here) :
    here.reading = m.instant + zone.offsetAt (m.instant / microsPerSecond) * microsPerSecond := by
  obtain ⟨shown, hshown, hreading⟩ := hreal.exists_shownIn h
  obtain ⟨-, -, rfl⟩ := shownIn_eq_ok.mp hshown
  exact hreading.symm

end

/-! ## Dates on the clock of a zone -/

theorem Moment.dateIn_of_inZone {zone : Zone} {m here : Moment} (h : m.inZone zone = .ok here) :
    m.dateIn zone = here.date := by
  unfold dateIn
  rw [h]

/-- A reading within the calendar is less than that of the first day after it. -/
theorem Moment.dayNumber_le {m : Moment} (h : inRange m.reading = true) :
    m.dayNumber ≤ lastDayNumber := by
  have hrange : 0 ≤ m.reading ∧ m.reading < readingBound := by
    simpa only [inRange, Bool.and_eq_true, decide_eq_true_eq] using h
  have hdays : m.reading / microsPerDay < lastDayNumber := by
    apply Int.ediv_lt_of_lt_mul (by decide)
    exact hrange.2
  have hlast : 0 < lastDayNumber := by decide
  unfold dayNumber
  omega

theorem Moment.year_le {m : Moment} (h : inRange m.reading = true) : m.date.year ≤ 9999 :=
  Date.year_ofDayNumber_le (Nat.le_add_left 1 _) (dayNumber_le h)

theorem Moment.midnight_inj {a b : Date} (ha : a.Valid) (hb : b.Valid)
    (h : midnight a = midnight b) : a = b := by
  refine ha.eq_of_dayNumber hb ?_
  have hdays : (a.dayNumber : Int) - 1 = (b.dayNumber : Int) - 1 :=
    Int.eq_of_mul_eq_mul_right (by decide) h
  omega

end Time

/-! ## First dates -/

namespace Period

/-- The first date of the period that a date lies in; without periods it is the date itself. -/
def first (p : Period) (d : Date) : Date :=
  match p with
  | never | daily => d
  | monthly => ⟨d.year, d.month, 1⟩
  | yearly => ⟨d.year, 1, 1⟩

theorem valid_first (p : Period) {d : Date} (h : d.Valid) : (p.first d).Valid := by
  cases p with
  | never => exact h
  | daily => exact h
  | monthly => exact ⟨h.year, h.month, h.month_le, Nat.le_refl 1, (monthLength_bounds _ _).1⟩
  | yearly =>
    exact ⟨h.year, Nat.le_refl 1, Nat.le_add_left 1 11, Nat.le_refl 1, (monthLength_bounds _ _).1⟩

/-- Between two dates of one period all dates are of that period. -/
theorem first_eq_of_between (p : Period) {a b c : Date} (ha : a.Valid) (hb : b.Valid) (hc : c.Valid)
    (hab : a.dayNumber ≤ b.dayNumber) (hbc : b.dayNumber ≤ c.dayNumber)
    (h : p.first a = p.first c) : p.first a = p.first b := by
  -- Days, and with them years and months, do not go back on the way from `a` to `c`.
  have hday (heq : a = c) : a = b := by
    subst heq
    exact ha.eq_of_dayNumber hb (Nat.le_antisymm hab hbc)
  have hyear (heq : a.year = c.year) : a.year = b.year := by
    have hlow := ha.year_le hb hab
    have hhigh := hb.year_le hc hbc
    omega
  cases p with
  | never => exact hday h
  | daily => exact hday h
  | monthly =>
    obtain ⟨hyears, hmonths, -⟩ := (Date.mk.injEq ..).mp h
    have hy := hyear hyears
    have hlow := ha.month_le_of_year hb hab hy
    have hhigh := hb.month_le_of_year hc hbc (hy.symm.trans hyears)
    have hm : a.month = b.month := by omega
    show Date.mk a.year a.month 1 = Date.mk b.year b.month 1
    rw [hy, hm]
  | yearly =>
    obtain ⟨hyears, -, -⟩ := (Date.mk.injEq ..).mp h
    show Date.mk a.year 1 1 = Date.mk b.year 1 1
    rw [hyear hyears]

/-! ## One period -/

theorem start?_eq {p : Period} (hp : p.isTimeBased = true) (m : Moment) :
    p.start? m = some (atReading m (Moment.midnight (p.first m.date))) := by
  cases p with
  | never => cases hp
  | _ => rfl

/-- Readings of one zone are the same moment when they are the same reading. -/
theorem sameAs_iff {a b : Moment} (h : a.zone = b.zone) :
    a.sameAs b = true ↔ a.reading = b.reading := by
  have horder : a.order? b = some (compare a.reading b.reading) := by
    unfold Moment.order? Moment.comparable
    simp [h]
  unfold Moment.sameAs
  rw [horder, beq_iff_eq, Option.some.injEq, Int.compare_eq_eq]

/-- Two moments lie in one period when its first date is the same for both. -/
theorem sameSpan_eq_ok {p : Period} {zone : Zone} {a b : Moment} {same : Bool}
    (hp : p.isTimeBased = true) (h : p.sameSpan zone a b = .ok same) :
    same = true ↔ p.first (a.dateIn zone) = p.first (b.dateIn zone) := by
  obtain ⟨first, hfirst, h⟩ := Except.bind_eq_ok.mp h
  obtain ⟨second, hsecond, h⟩ := Except.bind_eq_ok.mp h
  obtain ⟨here, hhere, hfirst⟩ := Except.bind_eq_ok.mp hfirst
  obtain ⟨there, hthere, hsecond⟩ := Except.bind_eq_ok.mp hsecond
  cases hfirst
  cases hsecond
  cases h
  -- Both first dates are readings of the one zone, so they are compared by their readings.
  have hzones : (atReading here (Moment.midnight (p.first here.date))).zone =
      (atReading there (Moment.midnight (p.first there.date))).zone :=
    (Moment.inZone_eq_ok hhere).1.trans (Moment.inZone_eq_ok hthere).1.symm
  rw [start?_eq hp, start?_eq hp, Moment.dateIn_of_inZone hhere, Moment.dateIn_of_inZone hthere]
  show Moment.sameAs _ _ = true ↔ _
  rw [sameAs_iff hzones]
  constructor
  · exact Moment.midnight_inj (p.valid_first (Moment.valid_date here))
      (p.valid_first (Moment.valid_date there))
  · intro heq
    exact congrArg Moment.midnight heq

end Period

/-! ## Reasons to start again -/

/-- Without a limit there is no reason to start again just within the period of the reference. -/
theorem Sequence.resetReason?_eq_ok {s : Sequence} {zone : Zone} {now : Moment}
    {reason : Option String} (hperiod : s.period.isTimeBased = true) (hlimit : s.limit = none)
    (h : s.resetReason? zone now = .ok reason) : reason = none ↔
      s.period.first (now.dateIn zone) = s.period.first (s.tally.reference.dateIn zone) := by
  obtain ⟨byTime, hdue, h⟩ := Except.bind_eq_ok.mp h
  unfold Tally.dueByTime at hdue
  rw [if_pos hperiod] at hdue
  obtain ⟨same, hsame, hdue⟩ := Except.bind_eq_ok.mp hdue
  cases hdue
  -- Without a limit the period is the only reason that is left.
  have hreason : reason = if same then none else
      some ("; ".intercalate [s.period.name ++ " period boundary crossed"]) := by
    rw [hlimit] at h
    cases same with
    | true => exact (Except.ok.inj h).symm
    | false => exact (Except.ok.inj h).symm
  rw [eq_comm (a := s.period.first (now.dateIn zone)), ← Period.sameSpan_eq_ok hperiod hsame,
    hreason]
  cases same <;> simp

end SerialNumbers
