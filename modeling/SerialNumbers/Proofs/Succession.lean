/-
  SerialNumbers.Proofs.Succession

  Periods follow each other without a gap.  The first date of the next period
  is the day after the last one of a period, and the midnight that starts it
  stands for the first instant at which the clock of the zone shows that date,
  also where the clock skips that midnight.  Main statement: the next period
  starts after every instant of the period from a moment on, and starts of
  periods do not go back (`Period.next_is_first`).
-/
import SerialNumbers.Proofs.Time.Epoch
import SerialNumbers.Proofs.Time.Midnight

namespace SerialNumbers

open Time

/-! ## Dates -/

namespace Time

/-- A year ends with its 31 December. -/
theorem Date.dayNumber_yearEnd {year : Nat} (h : 1 ≤ year) :
    (Date.mk year 12 31).dayNumber = daysBeforeYear (year + 1) := by
  have hmonth : daysBeforeMonth year 13 = daysBeforeMonth year 12 + monthLength year 12 :=
    daysBeforeMonth_succ year (Nat.le_add_left 1 11)
  have hlength : monthLength year 12 = 31 := rfl
  rw [daysBeforeYear_succ h, ← daysBeforeMonth_thirteen, hmonth, hlength, ← Nat.add_assoc]
  rfl

end Time

namespace Period

variable {p : Period} {d : Date}

/-- The last date of the period that a date lies in; without periods it is the date itself. -/
def last (p : Period) (d : Date) : Date :=
  match p with
  | never | daily => d
  | monthly => ⟨d.year, d.month, monthLength d.year d.month⟩
  | yearly => ⟨d.year, 12, 31⟩

/-- The first date of the period after the one that a date lies in. -/
def follow (p : Period) (d : Date) : Date :=
  match p with
  | never | daily => Date.ofDayNumber (d.dayNumber + 1)
  | monthly => if d.month == 12 then ⟨d.year + 1, 1, 1⟩ else ⟨d.year, d.month + 1, 1⟩
  | yearly => ⟨d.year + 1, 1, 1⟩

theorem valid_last (p : Period) (h : d.Valid) : (p.last d).Valid := by
  cases p with
  | never => exact h
  | daily => exact h
  | monthly => exact ⟨h.year, h.month, h.month_le, (monthLength_bounds _ _).1, Nat.le_refl _⟩
  | yearly =>
    exact ⟨h.year, Nat.le_add_left 1 11, Nat.le_refl 12, Nat.le_add_left 1 30, Nat.le_refl 31⟩

theorem valid_follow (p : Period) (h : d.Valid) : (p.follow d).Valid := by
  have hyear : (Date.mk (d.year + 1) 1 1).Valid :=
    ⟨Nat.le_add_left 1 _, Nat.le_refl 1, Nat.le_add_left 1 11, Nat.le_refl 1,
      (monthLength_bounds _ _).1⟩
  cases p with
  | never => exact (Date.ofDayNumber_spec (Nat.le_add_left 1 _)).1
  | daily => exact (Date.ofDayNumber_spec (Nat.le_add_left 1 _)).1
  | monthly =>
    unfold follow
    dsimp only
    split
    · exact hyear
    · rename_i hmonth
      have hmonth : d.month ≠ 12 := by simpa using hmonth
      have hle := h.month_le
      refine ⟨h.year, Nat.le_add_left 1 _, ?_, Nat.le_refl 1, (monthLength_bounds _ _).1⟩
      show d.month + 1 ≤ 12
      omega
  | yearly => exact hyear

theorem first_last (p : Period) (d : Date) : p.first (p.last d) = p.first d := by
  cases p <;> rfl

theorem first_first (p : Period) (d : Date) : p.first (p.first d) = p.first d := by
  cases p <;> rfl

/-- The period that follows starts with its first date. -/
theorem first_follow (p : Period) (d : Date) : p.first (p.follow d) = p.follow d := by
  cases p with
  | monthly =>
    unfold follow
    dsimp only
    split <;> rfl
  | _ => rfl

theorem dayNumber_first_le (p : Period) (h : d.Valid) :
    (p.first d).dayNumber ≤ d.dayNumber := by
  have hday := h.day
  have hmonths : daysBeforeMonth d.year 1 ≤ daysBeforeMonth d.year d.month :=
    daysBeforeMonth_le d.year h.month
  cases p with
  | never => exact Nat.le_refl _
  | daily => exact Nat.le_refl _
  | monthly => exact Nat.add_le_add_left hday _
  | yearly => exact Nat.add_le_add (Nat.add_le_add_left hmonths _) hday

theorem dayNumber_le_last (p : Period) (h : d.Valid) : d.dayNumber ≤ (p.last d).dayNumber := by
  cases p with
  | never => exact Nat.le_refl _
  | daily => exact Nat.le_refl _
  | monthly => exact Nat.add_le_add_left h.day_le _
  | yearly =>
    show d.dayNumber ≤ (Date.mk d.year 12 31).dayNumber
    rw [Date.dayNumber_yearEnd h.year]
    exact h.dayNumber_bounds.2

/-- The period that follows starts on the day after the last one. -/
theorem dayNumber_follow (p : Period) (h : d.Valid) :
    (p.follow d).dayNumber = (p.last d).dayNumber + 1 := by
  have hyear : (Date.mk (d.year + 1) 1 1).dayNumber = (Date.mk d.year 12 31).dayNumber + 1 := by
    rw [Date.dayNumber_yearEnd h.year]
    rfl
  cases p with
  | never => exact Date.dayNumber_ofDayNumber (Nat.le_add_left 1 _)
  | daily => exact Date.dayNumber_ofDayNumber (Nat.le_add_left 1 _)
  | monthly =>
    unfold follow
    dsimp only
    split
    · rename_i hmonth
      have hmonth : d.month = 12 := by simpa using hmonth
      rw [hyear]
      unfold last
      dsimp only
      rw [hmonth]
      rfl
    · show daysBeforeYear d.year + daysBeforeMonth d.year (d.month + 1) + 1 =
        daysBeforeYear d.year + daysBeforeMonth d.year d.month + monthLength d.year d.month + 1
      rw [daysBeforeMonth_succ d.year h.month, ← Nat.add_assoc]
  | yearly => exact hyear

/-- A later date is of the same period as long as the next period has not started. -/
theorem first_eq_iff_lt_follow (p : Period) {later : Date} (h : d.Valid) (hlater : later.Valid)
    (hle : d.dayNumber ≤ later.dayNumber) :
    p.first d = p.first later ↔ later.dayNumber < (p.follow d).dayNumber := by
  have hlast := p.dayNumber_le_last h
  have hnext := p.dayNumber_follow h
  constructor
  · intro hsame
    apply Nat.lt_of_not_le
    intro hpast
    -- Else the first date of the next period would be between two dates of this one.
    have hbetween := p.first_eq_of_between h (p.valid_follow h) hlater (by omega) hpast hsame
    rw [first_follow] at hbetween
    have hfirst := p.dayNumber_first_le h
    rw [hbetween] at hfirst
    omega
  · intro hlt
    exact p.first_eq_of_between h hlater (p.valid_last h) hle (by omega) (first_last p d).symm

end Period

/-! ## Starts of days -/

namespace Time

/-- The clock of the zone is less than a day off universal time. -/
def Zone.WithinDay : Zone → Prop
  | fixed offset => -86400 < offset ∧ offset < 86400
  | seasonal _ => True

/-- All zones that have a name are within a day. -/
theorem Zone.withinDay_of_named {name : String} {zone : Zone} (h : named name = .ok zone) :
    zone.WithinDay := by
  have hknown : named? name = some zone := by
    unfold named at h
    dsimp only at h
    split at h
    · cases h
    · split at h
      · cases h
      · split at h
        · cases h
        · split at h
          · rename_i hfound
            rw [hfound, Except.ok.inj h]
          · cases h
  unfold named? at hknown
  split at hknown
  · cases hknown
    exact show -86400 < (0 : Int) ∧ (0 : Int) < 86400 by decide
  · cases hknown
    exact show -86400 < hours 9 ∧ hours 9 < 86400 by decide
  · cases hknown
    exact show -86400 < hours 5 + 1800 ∧ hours 5 + 1800 < 86400 by decide
  · cases hknown
    exact trivial
  · cases hknown
    exact trivial
  · cases hknown
    exact trivial
  · cases hknown
    exact trivial
  · cases hknown

theorem Zone.offsetOf_gt {zone : Zone} (h : zone.WithinDay) (reading : Int) :
    -86400 < zone.offsetOf false reading := by
  cases zone with
  | fixed offset => exact h.1
  | seasonal region =>
    have hstandard := region.standard_bounds
    rcases offsetOf_cases region false reading with h | h <;> rw [h] <;> omega

/-- The offset never changes by more than an hour. -/
theorem Zone.offsetAt_le_offsetOf (zone : Zone) (x reading : Int) :
    zone.offsetAt x ≤ zone.offsetOf false reading + 3600 := by
  cases zone with
  | fixed offset =>
    show offset ≤ offset + 3600
    omega
  | seasonal region =>
    have hat := offsetAt_cases region x
    have hof := offsetOf_cases region false reading
    omega

theorem Zone.offsetOf_le_offsetOf (zone : Zone) (reading later : Int) :
    zone.offsetOf false later ≤ zone.offsetOf false reading + 3600 := by
  cases zone with
  | fixed offset =>
    show offset ≤ offset + 3600
    omega
  | seasonal region =>
    have hof := offsetOf_cases region false reading
    have hlater := offsetOf_cases region false later
    omega

namespace Moment

variable {zone : Zone} {d : Date} {m n t here : Moment}

/-- The day that the clock of a zone shows at a moment, counted from 0. -/
def localDay (zone : Zone) (m : Moment) : Int :=
  (m.instant / microsPerSecond + zone.offsetAt (m.instant / microsPerSecond)) / 86400

theorem localDay_le (h : 0 ≤ m.instant) (hle : m.instant ≤ t.instant) :
    m.localDay zone ≤ t.localDay zone :=
  zone.localDay_le (Int.ediv_nonneg h (by decide : 0 ≤ microsPerSecond))
    (Int.ediv_le_ediv (by decide : 0 < microsPerSecond) hle)

/-- What the clock of a zone shows is within the calendar, by universal time and by that clock. -/
theorem shownIn_iff : (∃ shown, m.shownIn zone = .ok shown) ↔
    (0 ≤ m.instant ∧ m.instant < readingBound) ∧
      0 ≤ m.localDay zone ∧ m.localDay zone < lastDayNumber := by
  have hdays : readingBound = 315537897600000000 := by decide
  have hlast : (lastDayNumber : Int) = 3652059 := rfl
  simp only [shownIn_eq_ok, inRange, Bool.and_eq_true, decide_eq_true_eq]
  unfold localDay microsPerSecond
  constructor
  · rintro ⟨_, hinstant, hreading, rfl⟩
    dsimp only at hreading
    omega
  · rintro ⟨hinstant, hday⟩
    refine ⟨_, hinstant, ?_, rfl⟩
    dsimp only
    omega

theorem IsReal.bounds_of_inZone (hreal : m.IsReal zone) (h : m.inZone zone = .ok here) :
    (0 ≤ m.instant ∧ m.instant < readingBound) ∧
      0 ≤ m.localDay zone ∧ m.localDay zone < lastDayNumber := by
  obtain ⟨shown, hshown, -⟩ := hreal.exists_shownIn h
  exact shownIn_iff.mp ⟨shown, hshown⟩

theorem IsReal.dayNumber_dateIn_eq (hreal : m.IsReal zone) (h : m.inZone zone = .ok here) :
    ((m.dateIn zone).dayNumber : Int) = m.localDay zone + 1 := by
  have hday := (dayNumber_dateIn hreal h).2
  have hfirst := (hreal.bounds_of_inZone h).2.1
  unfold localDay at hfirst ⊢
  omega

/-- A moment that is on the clock of a zone is marked as of the later pass just where this clock is
    in its later pass.  For moments on other clocks this says nothing. -/
def IsMarked (zone : Zone) (m : Moment) : Prop :=
  m.isOn zone = true → m.late = zone.isLatePass (m.instant / microsPerSecond)

instance (zone : Zone) (m : Moment) : Decidable (m.IsMarked zone) :=
  inferInstanceAs (Decidable (_ → _))

theorem late_of_inZone (hmarked : m.IsMarked zone) (h : m.inZone zone = .ok here) :
    here.late = zone.isLatePass (m.instant / microsPerSecond) := by
  rcases inZone_eq_ok_iff.mp h with ⟨hon, -, rfl⟩ | ⟨-, hshown⟩
  · exact hmarked hon
  · obtain ⟨-, -, rfl⟩ := shownIn_eq_ok.mp hshown
    rfl

/-- The moment is the midnight of a date on the clock of a zone, and of the earlier pass if the
    clock is changed then. -/
structure Opens (zone : Zone) (d : Date) (n : Moment) : Prop where
  reading : n.reading = midnight d
  onClock : n.zone = some zone
  late : n.late = true → zone.KeepsMidnight (d.dayNumber - 1)

/-- The instant that the midnight of a date stands for. -/
theorem Opens.instant_eq (h : n.Opens zone d) : n.instant =
    (86400 * ((d.dayNumber : Int) - 1) -
      zone.offsetOf false (86400 * ((d.dayNumber : Int) - 1))) * microsPerSecond := by
  have hmicros : n.reading = 86400 * ((d.dayNumber : Int) - 1) * microsPerSecond := by
    rw [h.reading]
    unfold midnight microsPerDay
    rw [← Int.mul_assoc, Int.mul_comm 86400]
  have hseconds : n.readingSeconds = 86400 * ((d.dayNumber : Int) - 1) := by
    unfold readingSeconds
    rw [hmicros, Int.mul_ediv_cancel _ (by decide)]
  have hoffset : zone.offsetOf n.late (86400 * ((d.dayNumber : Int) - 1)) =
      zone.offsetOf false (86400 * ((d.dayNumber : Int) - 1)) := by
    cases hlate : n.late with
    | false => rfl
    | true => exact Zone.offsetOf_midnight (h.late hlate) true
  unfold instant offset?
  rw [h.onClock, Option.map_some, hseconds]
  show n.reading - zone.offsetOf n.late _ * microsPerSecond = _
  rw [hoffset, hmicros, Int.sub_mul]

/-- The clock shows earlier days up to the instant that the midnight of a date stands for, and
    that day or later ones from then on. -/
theorem Opens.localDay_lt_iff (h : n.Opens zone d) (hd : 2 ≤ d.dayNumber) (ht : 0 ≤ t.instant) :
    t.localDay zone < (d.dayNumber : Int) - 1 ↔ t.instant < n.instant := by
  have hmicros : (0 : Int) < microsPerSecond := by decide
  rw [h.instant_eq, ← Int.ediv_lt_iff_lt_mul hmicros]
  exact zone.localDay_lt_iff (by omega) (Int.ediv_nonneg ht (Int.le_of_lt hmicros))

/-- At the instant itself the clock shows that day. -/
theorem Opens.localDay_le_self (h : n.Opens zone d) :
    n.localDay zone ≤ (d.dayNumber : Int) - 1 := by
  have hahead := zone.offsetAt_le_offsetOf (n.instant / microsPerSecond)
    (86400 * ((d.dayNumber : Int) - 1))
  have hseconds : n.instant / microsPerSecond = 86400 * ((d.dayNumber : Int) - 1) -
      zone.offsetOf false (86400 * ((d.dayNumber : Int) - 1)) := by
    rw [h.instant_eq, Int.mul_ediv_cancel _ (by decide)]
  unfold localDay
  omega

/-- A later midnight stands for a later instant. -/
theorem Opens.instant_le {e : Date} (h : n.Opens zone d) (ht : t.Opens zone e)
    (hle : d.dayNumber ≤ e.dayNumber) : n.instant ≤ t.instant := by
  rw [h.instant_eq, ht.instant_eq]
  apply Int.mul_le_mul_of_nonneg_right _ (by decide)
  rcases Nat.eq_or_lt_of_le hle with heq | hlt
  · exact Int.le_of_eq (by rw [heq])
  · -- A day makes up for every change of the offset.
    have hchange := zone.offsetOf_le_offsetOf (86400 * ((d.dayNumber : Int) - 1))
      (86400 * ((e.dayNumber : Int) - 1))
    omega

/-- What starts within the calendar stands for an instant within the calendar. -/
theorem Opens.instant_lt (h : n.Opens zone d) (hzone : zone.WithinDay)
    (hd : d.dayNumber ≤ lastDayNumber) : n.instant < readingBound := by
  have hbehind := Zone.offsetOf_gt hzone (86400 * ((d.dayNumber : Int) - 1))
  have hbound : readingBound = 86400 * (lastDayNumber : Int) * microsPerSecond := by decide
  rw [h.instant_eq, hbound]
  apply Int.mul_lt_mul_of_pos_right _ (by decide)
  omega

end Moment
end Time

/-! ## Starts of periods -/

namespace Period

variable {p : Period} {zone : Zone} {m a b n t x y here there : Moment}

/-- The start of a period is the midnight of its first date, as a reading. -/
theorem reading_of_boundary? (h : p.boundary? zone m = .ok (some x)) :
    x.zone = some zone ∧ x.reading = Moment.midnight (p.first (m.dateIn zone)) := by
  obtain ⟨here, hhere, h⟩ := Except.bind_eq_ok.mp h
  have hstart : p.start? here = some x := Except.ok.inj h
  rw [Moment.dateIn_of_inZone hhere, ← (Moment.inZone_eq_ok hhere).1]
  cases p <;> cases hstart <;> exact ⟨rfl, rfl⟩

/-- It is of the earlier pass unless the clock keeps that midnight. -/
theorem opens_of_boundary? (hreal : m.IsReal zone) (hmarked : m.IsMarked zone)
    (h : p.boundary? zone m = .ok (some x)) : x.Opens zone (p.first (m.dateIn zone)) := by
  obtain ⟨hzone, hreading⟩ := reading_of_boundary? h
  refine ⟨hreading, hzone, ?_⟩
  intro hlate
  obtain ⟨here, hhere, h⟩ := Except.bind_eq_ok.mp h
  have hstart : p.start? here = some x := Except.ok.inj h
  have hvalid := p.valid_first (Moment.valid_dateIn zone m)
  cases p with
  | never => cases hstart
  | daily =>
    cases hstart
    have hkept :=
      Zone.keepsMidnight_of_late ((Moment.late_of_inZone hmarked hhere).symm.trans hlate)
    have hday := hreal.dayNumber_dateIn_eq hhere
    unfold Moment.localDay at hday
    show zone.KeepsMidnight ((m.dateIn zone).dayNumber - 1)
    rwa [hday, Int.add_sub_cancel]
  | monthly => exact Zone.keepsMidnight_of_day hvalid rfl zone
  | yearly => exact Zone.keepsMidnight_of_day hvalid rfl zone

theorem firstOfMonth_eq_ok {year month : Nat} {reading : Int}
    (h : firstOfMonth year month = .ok reading) :
    year ≤ 9999 ∧ reading = Moment.midnight ⟨year, month, 1⟩ := by
  unfold firstOfMonth at h
  split at h
  · cases h
  · rename_i hyear
    exact ⟨Nat.le_of_not_lt hyear, (Except.ok.inj h).symm⟩

/-- A date of the calendar is not after its last day. -/
theorem dayNumber_le_last_of_year {d : Date} (h : d.Valid) (hyear : d.year ≤ 9999) :
    d.dayNumber ≤ lastDayNumber :=
  Nat.le_trans h.dayNumber_bounds.2 (daysBeforeYear_le (Nat.succ_le_succ hyear))

/-- The first of a month is never skipped, so it does not matter of which pass it is. -/
theorem opens_of_firstOfMonth {d : Date} {reading : Int} (hzone : here.zone = some zone)
    (hd : d.Valid) (hday : d.day = 1) (h : firstOfMonth d.year d.month = .ok reading) :
    (atReading here reading).Opens zone d ∧ d.dayNumber ≤ lastDayNumber := by
  obtain ⟨hyear, hreading⟩ := firstOfMonth_eq_ok h
  refine ⟨⟨?_, hzone, fun _ => Zone.keepsMidnight_of_day hd hday zone⟩,
    dayNumber_le_last_of_year hd hyear⟩
  show reading = _
  rw [hreading, ← hday]

theorem midnight_follow_daily (d : Date) :
    Moment.midnight (daily.follow d) = Moment.midnight d + microsPerDay := by
  have hnext : (daily.follow d).dayNumber = d.dayNumber + 1 :=
    Date.dayNumber_ofDayNumber (Nat.le_add_left 1 _)
  unfold Moment.midnight
  rw [hnext, Int.natCast_add, Int.natCast_one, Int.add_sub_cancel, Int.sub_mul, Int.one_mul,
    Int.sub_add_cancel]

/-- The next period starts with the midnight of its first date, within the calendar. -/
theorem opens_of_next? (h : p.next? zone m = .ok (some n)) :
    n.Opens zone (p.follow (m.dateIn zone)) ∧
      (p.follow (m.dateIn zone)).dayNumber ≤ lastDayNumber := by
  obtain ⟨here, hhere, h⟩ := Except.bind_eq_ok.mp h
  have hshown := (Moment.inZone_eq_ok hhere).1
  have hdate : here.date.Valid := Moment.valid_date here
  have hvalid := p.valid_follow hdate
  rw [Moment.dateIn_of_inZone hhere]
  cases p with
  | never => cases h
  | daily =>
    unfold nextReading? at h
    dsimp only at h
    split at h
    · rename_i hbound
      cases h
      have hmidnight := midnight_follow_daily here.date
      refine ⟨⟨hmidnight.symm, hshown, fun hlate => absurd hlate Bool.false_ne_true⟩, ?_⟩
      have hdays : ((daily.follow here.date).dayNumber : Int) - 1 < lastDayNumber := by
        rw [← hmidnight] at hbound
        exact Int.lt_of_mul_lt_mul_right hbound (by decide)
      omega
    · cases h
  | monthly =>
    unfold nextReading? at h
    unfold follow at hvalid ⊢
    dsimp only at h hvalid ⊢
    split at h
    · rename_i hmonth
      rw [if_pos hmonth] at hvalid ⊢
      obtain ⟨reading, hreading, h⟩ := Except.bind_eq_ok.mp h
      cases h
      exact opens_of_firstOfMonth hshown hvalid rfl hreading
    · rename_i hmonth
      rw [if_neg hmonth] at hvalid ⊢
      obtain ⟨reading, hreading, h⟩ := Except.bind_eq_ok.mp h
      cases h
      exact opens_of_firstOfMonth hshown hvalid rfl hreading
  | yearly =>
    obtain ⟨reading, hreading, h⟩ := Except.bind_eq_ok.mp h
    cases h
    exact opens_of_firstOfMonth hshown hvalid rfl hreading

theorem isTimeBased_of_next? (h : p.next? zone m = .ok (some n)) : p.isTimeBased = true := by
  cases p with
  | never =>
    obtain ⟨_, _, h⟩ := Except.bind_eq_ok.mp h
    cases h
  | _ => rfl

/-! ## Moments of one period -/

/-- On the clock of a zone that shows both moments it can be told whether they lie in one
    period. -/
theorem sameSpan_of_inZone (hp : p.isTimeBased = true) (ha : a.inZone zone = .ok here)
    (hb : b.inZone zone = .ok there) : p.sameSpan zone a b =
      .ok (decide (p.first (a.dateIn zone) = p.first (b.dateIn zone))) := by
  have hok : p.sameSpan zone a b = .ok (sameStart (p.start? here) (p.start? there)) := by
    unfold sameSpan boundary?
    rw [ha, hb]
    rfl
  rw [hok]
  congr 1
  rw [Bool.eq_iff_iff, decide_eq_true_iff]
  exact sameSpan_eq_ok hp hok

/-- A later date is in no earlier period. -/
theorem dayNumber_first_mono (p : Period) {d later : Date} (h : d.Valid) (hlater : later.Valid)
    (hle : d.dayNumber ≤ later.dayNumber) :
    (p.first d).dayNumber ≤ (p.first later).dayNumber := by
  apply Nat.le_of_not_lt
  intro hlt
  -- Else the first date of the period would be between two dates of an earlier one.
  have hbetween := p.first_eq_of_between (p.valid_first hlater) (p.valid_first h) hlater
    (Nat.le_of_lt hlt) (Nat.le_trans (p.dayNumber_first_le h) hle) (p.first_first later)
  rw [first_first, first_first] at hbetween
  rw [hbetween] at hlt
  exact Nat.lt_irrefl _ hlt

/-- Where a midnight is on the clock of the zone itself, it has its date there, even if that clock
    skips it. -/
theorem dateIn_of_opens {d : Date} (hopens : n.Opens zone d) (hd : d.Valid)
    (hend : d.dayNumber ≤ lastDayNumber) (hon : n.isOn zone = true) :
    n.inZone zone = .ok n ∧ n.dateIn zone = d := by
  have hpositive : 1 ≤ d.dayNumber := Nat.one_le_of_lt hd.dayNumber_bounds.1
  have hreading : n.reading = ((d.dayNumber : Int) - 1) * microsPerDay := hopens.reading
  have hrange : Moment.inRange n.reading = true := by
    have hday : microsPerDay = 86400000000 := by decide
    have hbound : readingBound = (lastDayNumber : Int) * microsPerDay := rfl
    simp only [Moment.inRange, Bool.and_eq_true, decide_eq_true_eq, hbound, hreading, hday]
    omega
  have hinZone := Moment.inZone_eq_ok_iff.mpr (.inl ⟨hon, hrange, rfl⟩)
  refine ⟨hinZone, ?_⟩
  have hnumber : n.dayNumber = d.dayNumber := by
    unfold Moment.dayNumber
    rw [hreading, Int.mul_ediv_cancel _ (by decide)]
    omega
  rw [Moment.dateIn_of_inZone hinZone]
  apply (Moment.valid_date n).eq_of_dayNumber hd
  unfold Moment.date
  rw [hnumber, Date.dayNumber_ofDayNumber hpositive]

/-- By the days that the clock shows, the moments of a period from one on are those before the start
    of the next one. -/
theorem sameSpan_until_next {ts : Moment} (hzone : zone.WithinDay) (hreal : ts.IsReal zone)
    (h : p.next? zone ts = .ok (some n)) (ht : t.IsReal zone) (hle : ts.instant ≤ t.instant)
    (hlast : t.instant ≤ n.instant) :
    p.sameSpan zone ts t = .ok (decide (t.instant < n.instant)) := by
  obtain ⟨here, hhere, -⟩ := Except.bind_eq_ok.mp h
  obtain ⟨hopens, hend⟩ := opens_of_next? h
  have hdate := Moment.valid_dateIn zone ts
  obtain ⟨⟨hnonneg, -⟩, hday, -⟩ := hreal.bounds_of_inZone hhere
  have hpositive := hdate.dayNumber_bounds.1
  have hstart : 2 ≤ (p.follow (ts.dateIn zone)).dayNumber := by
    have hnext := p.dayNumber_follow hdate
    have hlast := p.dayNumber_le_last hdate
    omega
  have hnonneg' := Int.le_trans hnonneg hle
  -- The clock shows a day of the calendar at `t`, as it does so at the start of the next period.
  obtain ⟨there, hthere⟩ : ∃ there, t.inZone zone = .ok there := by
    have hhigh := hopens.instant_lt hzone hend
    have hlocal := hopens.localDay_le_self
    have hmono : t.localDay zone ≤ n.localDay zone := Moment.localDay_le hnonneg' hlast
    obtain ⟨shown, hshown⟩ := Moment.shownIn_iff.mpr ⟨⟨hnonneg', Int.lt_of_le_of_lt hlast hhigh⟩,
      Int.le_trans hday (Moment.localDay_le hnonneg hle), by omega⟩
    exact ht.exists_inZone hshown
  have hthereDay := ht.dayNumber_dateIn_eq hthere
  rw [sameSpan_of_inZone (isTimeBased_of_next? h) hhere hthere]
  congr 1
  rw [decide_eq_decide, p.first_eq_iff_lt_follow hdate (Moment.valid_dateIn zone t)
    (Moment.dayNumber_dateIn_le hreal ht hhere hthere hle),
    ← hopens.localDay_lt_iff hstart hnonneg']
  omega

/-- The start of the next period is not of the period of a moment, also where the clock of the zone
    skips it. -/
theorem sameSpan_next {ts : Moment} (hzone : zone.WithinDay) (hreal : ts.IsReal zone)
    (h : p.next? zone ts = .ok (some n)) (hle : ts.instant ≤ n.instant) :
    p.sameSpan zone ts n = .ok false := by
  cases hon : n.isOn zone with
  | false =>
    have hn : n.IsReal zone := fun h => absurd (hon.symm.trans h) Bool.false_ne_true
    rw [sameSpan_until_next hzone hreal h hn hle (Int.le_refl _),
      decide_eq_false (Int.lt_irrefl _)]
  | true =>
    obtain ⟨here, hhere, -⟩ := Except.bind_eq_ok.mp h
    obtain ⟨hopens, hend⟩ := opens_of_next? h
    have hdate := Moment.valid_dateIn zone ts
    obtain ⟨hn, hdateIn⟩ := dateIn_of_opens hopens (p.valid_follow hdate) hend hon
    have hnext := p.dayNumber_follow hdate
    have hlast := p.dayNumber_le_last hdate
    rw [sameSpan_of_inZone (isTimeBased_of_next? h) hhere hn, hdateIn, decide_eq_false]
    rw [p.first_eq_iff_lt_follow hdate (p.valid_follow hdate) (by omega)]
    exact Nat.lt_irrefl _

/-- The start of the next period is after a moment; up to it all moments are of the period, and it
    is not. -/
theorem next_first {ts : Moment} (hzone : zone.WithinDay) (hreal : ts.IsReal zone)
    (h : p.next? zone ts = .ok (some n)) :
    ts.instant < n.instant ∧
      (∀ t : Moment, t.IsReal zone → ts.instant ≤ t.instant → t.instant < n.instant →
        p.sameSpan zone ts t = .ok true) ∧
      p.sameSpan zone ts n = .ok false := by
  obtain ⟨here, hhere, -⟩ := Except.bind_eq_ok.mp h
  have hdate := Moment.valid_dateIn zone ts
  have hhereDay := hreal.dayNumber_dateIn_eq hhere
  have hnext := p.dayNumber_follow hdate
  have hlast := p.dayNumber_le_last hdate
  have hpositive := hdate.dayNumber_bounds.1
  have hbefore : ts.instant < n.instant := by
    rw [← (opens_of_next? h).1.localDay_lt_iff (by omega) (hreal.bounds_of_inZone hhere).1.1]
    omega
  refine ⟨hbefore, ?_, sameSpan_next hzone hreal h (Int.le_of_lt hbefore)⟩
  intro t ht hle hlt
  rw [sameSpan_until_next hzone hreal h ht hle (Int.le_of_lt hlt), decide_eq_true hlt]

/-- Starts of periods do not go back as time advances, neither as readings nor as instants. -/
theorem boundary_mono (hrealA : a.IsReal zone) (hrealB : b.IsReal zone)
    (hle : a.instant ≤ b.instant) (ha : p.boundary? zone a = .ok (some x))
    (hb : p.boundary? zone b = .ok (some y)) :
    (x.order? y).any Ordering.isLE = true ∧
      (a.IsMarked zone → b.IsMarked zone → x.instant ≤ y.instant) := by
  obtain ⟨hxzone, hxreading⟩ := reading_of_boundary? ha
  obtain ⟨hyzone, hyreading⟩ := reading_of_boundary? hb
  obtain ⟨here, hhere, -⟩ := Except.bind_eq_ok.mp ha
  obtain ⟨there, hthere, -⟩ := Except.bind_eq_ok.mp hb
  have hdays := p.dayNumber_first_mono (Moment.valid_dateIn zone a) (Moment.valid_dateIn zone b)
    (Moment.dayNumber_dateIn_le hrealA hrealB hhere hthere hle)
  refine ⟨?_, fun hmarkA hmarkB => ?_⟩
  · have horder : x.order? y = some (compare x.reading y.reading) := by
      unfold Moment.order? Moment.comparable
      rw [hxzone, hyzone]
      simp
    rw [horder]
    apply Int.isLE_compare.mpr
    rw [hxreading, hyreading]
    exact Int.mul_le_mul_of_nonneg_right (by omega) (by decide)
  · exact (opens_of_boundary? hrealA hmarkA ha).instant_le
      (opens_of_boundary? hrealB hmarkB hb) hdays

end Period
end SerialNumbers
