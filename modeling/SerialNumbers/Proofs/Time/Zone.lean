/-
  SerialNumbers.Proofs.Time.Zone

  The dates that clocks show.  A clock that is put back by an hour shows some
  readings twice, but not the date of a day before: each of these hours lies
  within one day.  Main statement: on the clock of every zone later instants
  have no earlier dates (`Moment.dayNumber_dateIn_le`).
-/
import SerialNumbers.Proofs.Period

namespace SerialNumbers.Time

/-! ## Days of the changes -/

/-- A month has at least 28 days. -/
theorem monthLength_ge (year month : Nat) : 28 ≤ monthLength year month := by
  unfold monthLength
  split
  · split <;> decide
  · split <;> decide

/-- A year has at least 365 days. -/
theorem yearLength_ge (year : Nat) : 365 ≤ yearLength year := by
  unfold yearLength
  split <;> decide

theorem daysBeforeMonth_bounds (year month : Nat) :
    28 * (month - 1) ≤ daysBeforeMonth year month ∧
      daysBeforeMonth year month ≤ 31 * (month - 1) := by
  induction month with
  | zero => exact ⟨Nat.le_refl 0, Nat.le_refl 0⟩
  | succ month ih =>
    cases month with
    | zero => exact ⟨Nat.le_refl 0, Nat.le_refl 0⟩
    | succ month =>
      have hlow := monthLength_ge year (month + 1)
      have hhigh := (monthLength_bounds year (month + 1)).2
      rw [daysBeforeMonth_succ year (Nat.le_add_left 1 month)]
      omega

/-- A Sunday that is counted from the first of a month. -/
theorem nthSunday_bounds (year month n : Nat) :
    daysBeforeYear year + 28 * (month - 1) < nthSunday year month n ∧
      nthSunday year month n ≤ daysBeforeYear year + 31 * (month - 1) + 7 * (n - 1) + 7 := by
  have hmonth := daysBeforeMonth_bounds year month
  have hfirst : (Date.mk year month 1).dayNumber =
      daysBeforeYear year + daysBeforeMonth year month + 1 := rfl
  unfold nthSunday
  dsimp only
  omega

theorem lastSunday_bounds (year month : Nat) :
    daysBeforeYear year + 28 * (month - 1) + 21 < lastSunday year month ∧
      lastSunday year month ≤ daysBeforeYear year + 31 * (month - 1) + 31 := by
  have hmonth := daysBeforeMonth_bounds year month
  have hlow := monthLength_ge year month
  have hhigh := (monthLength_bounds year month).2
  have hlast : (Date.mk year month (monthLength year month)).dayNumber =
      daysBeforeYear year + daysBeforeMonth year month + monthLength year month := rfl
  unfold lastSunday
  dsimp only
  omega

namespace Region

variable {region : Region} {year : Nat} {shift : Shift}

/-- A change of the clocks of a region: on a day well within the year, at a full hour by the
    clock of the winter, not before eleven in the evening before and not after two; and to one of
    two offsets. -/
structure Change (region : Region) (year : Nat) (shift : Shift) (day hour : Int) : Prop where
  day_gt : daysBeforeYear year + 30 < day
  day_le : day ≤ daysBeforeYear year + 350
  hour_ge : -1 ≤ hour
  hour_le : hour ≤ 2
  instant : shift.instant + region.standard = 86400 * (day - 1) + 3600 * hour
  after : shift.after = region.standard ∨ shift.after = region.standard + 3600

theorem standard_bounds (region : Region) :
    -18000 ≤ region.standard ∧ region.standard ≤ 43200 := by
  cases region <;> decide

/-- In the list below a change is at a reading of the winter clock or of the summer clock, which
    is an hour ahead, or at an instant; its hour is that of the winter clock. -/
theorem change_of_mem (h : shift ∈ region.shifts year) :
    ∃ day hour, Change region year shift day hour := by
  cases region with
  | newYork =>
    have hforward := nthSunday_bounds year 3 2
    have hback := nthSunday_bounds year 11 1
    rcases List.mem_cons.mp h with rfl | h
    · refine ⟨nthSunday year 3 2, 2, by omega, by omega, by decide, by decide, ?_, .inr rfl⟩
      show daySeconds _ _ - hours (-5) + hours (-5) = _
      unfold daySeconds hours
      omega
    · rw [List.mem_singleton.mp h]
      refine ⟨nthSunday year 11 1, 1, by omega, by omega, by decide, by decide, ?_, .inl rfl⟩
      show daySeconds _ _ - (hours (-5) + hours 1) + hours (-5) = _
      unfold daySeconds hours
      omega
  | berlin =>
    have hforward := lastSunday_bounds year 3
    have hback := lastSunday_bounds year 10
    rcases List.mem_cons.mp h with rfl | h
    · refine ⟨lastSunday year 3, 2, by omega, by omega, by decide, by decide, ?_, .inr rfl⟩
      show daySeconds _ _ + hours 1 = _
      unfold daySeconds hours
      omega
    · rw [List.mem_singleton.mp h]
      refine ⟨lastSunday year 10, 2, by omega, by omega, by decide, by decide, ?_, .inl rfl⟩
      show daySeconds _ _ + hours 1 = _
      unfold daySeconds hours
      omega
  | auckland =>
    have hback := nthSunday_bounds year 4 1
    have hforward := lastSunday_bounds year 9
    rcases List.mem_cons.mp h with rfl | h
    · refine ⟨nthSunday year 4 1, 2, by omega, by omega, by decide, by decide, ?_, .inl rfl⟩
      show daySeconds _ _ - (hours 12 + hours 1) + hours 12 = _
      unfold daySeconds hours
      omega
    · rw [List.mem_singleton.mp h]
      refine ⟨lastSunday year 9, 2, by omega, by omega, by decide, by decide, ?_, .inr rfl⟩
      show daySeconds _ _ - hours 12 + hours 12 = _
      unfold daySeconds hours
      omega
  | saoPaulo =>
    -- Three years have changes.
    unfold shifts at h
    dsimp only at h
    split at h
    · rw [List.mem_singleton.mp h]
      exact ⟨(Date.mk 2017 10 15).dayNumber, 0, by decide, by decide, by decide, by decide, by decide,
        .inr rfl⟩
    · rcases List.mem_cons.mp h with rfl | h
      · exact ⟨(Date.mk 2018 2 18).dayNumber, -1, by decide, by decide, by decide, by decide,
          by decide, .inl rfl⟩
      · rw [List.mem_singleton.mp h]
        exact ⟨(Date.mk 2018 11 4).dayNumber, 0, by decide, by decide, by decide, by decide,
          by decide, .inr rfl⟩
    · rw [List.mem_singleton.mp h]
      exact ⟨(Date.mk 2019 2 17).dayNumber, -1, by decide, by decide, by decide, by decide, by decide,
        .inl rfl⟩
    · exact absurd h List.not_mem_nil

/-- A change is more than a day away from both ends of its year, by universal time too. -/
theorem Change.instant_bounds {day hour : Int} (h : Change region year shift day hour)
    (hyear : 1 ≤ year) : 86400 * (daysBeforeYear year : Int) + 86400 ≤ shift.instant ∧
      shift.instant + 86400 < 86400 * (daysBeforeYear (year + 1) : Int) := by
  have hgt := h.day_gt
  have hle := h.day_le
  have hge := h.hour_ge
  have hhour := h.hour_le
  have hinstant := h.instant
  have hlength := yearLength_ge year
  have hstandard := region.standard_bounds
  rw [daysBeforeYear_succ hyear]
  omega

/-- Only years without changes are followed by a year without changes, but for one, at the end
    of which it is winter. -/
theorem offsetAfter_of_next_nil (h : region.shifts (year + 1) = []) (p : Shift → Bool) :
    Zone.offsetAfter region ((region.shifts year).filter p) = region.standard := by
  cases region with
  | newYork => cases h
  | berlin => cases h
  | auckland => cases h
  | saoPaulo =>
    unfold shifts
    dsimp only
    split
    · cases h
    · cases h
    · rw [List.filter_cons]
      split <;> rfl
    · rfl

end Region

/-! ## Offsets of a zone -/

namespace Zone

variable {region : Region}

theorem offsetAfter_concat (passed : List Shift) (shift : Shift) :
    offsetAfter region (passed ++ [shift]) = shift.after := by
  unfold offsetAfter
  rw [List.getLast?_concat]
  rfl

/-- Changes of the clock leave it at the standard offset or an hour ahead of it. -/
theorem offsetAfter_cases {passed : List Shift}
    (h : ∀ shift ∈ passed, ∃ year, shift ∈ region.shifts year) :
    offsetAfter region passed = region.standard ∨
      offsetAfter region passed = region.standard + 3600 := by
  unfold offsetAfter
  cases hlast : passed.getLast? with
  | none => exact .inl rfl
  | some shift =>
    obtain ⟨year, hshift⟩ := h shift (List.mem_of_getLast? hlast)
    obtain ⟨day, hour, hchange⟩ := Region.change_of_mem hshift
    exact hchange.after

/-- When there are different offsets at two instants, the clocks were changed in between, and last
    to the offset of the later one. -/
theorem exists_shift {shifts : List Shift} {x y : Int} (hxy : x ≤ y)
    (h : offsetAfter region (shifts.filter (·.instant ≤ x)) ≠
      offsetAfter region (shifts.filter (·.instant ≤ y))) :
    ∃ shift ∈ shifts, x < shift.instant ∧ shift.instant ≤ y ∧
      shift.after = offsetAfter region (shifts.filter (·.instant ≤ y)) := by
  -- What has passed at the first instant is what of the changes up to the second has.
  have hpassed : shifts.filter (·.instant ≤ x) =
      (shifts.filter (·.instant ≤ y)).filter (·.instant ≤ x) := by
    rw [List.filter_filter]
    apply List.filter_congr
    intro shift _
    by_cases hx : shift.instant ≤ x
    · simp [hx, Int.le_trans hx hxy]
    · simp [hx]
  rw [hpassed] at h
  cases hlast : (shifts.filter (·.instant ≤ y)).getLast? with
  | none =>
    rw [List.getLast?_eq_none_iff.mp hlast] at h
    exact absurd rfl h
  | some shift =>
    obtain ⟨before, hsplit⟩ := List.getLast?_eq_some_iff.mp hlast
    obtain ⟨hmem, hle⟩ := List.mem_filter.mp (List.mem_of_getLast? hlast)
    have hle : shift.instant ≤ y := of_decide_eq_true hle
    rw [hsplit, offsetAfter_concat, List.filter_append] at h
    by_cases hx : shift.instant ≤ x
    · rw [List.filter_eq_self (l := [shift]) |>.mpr (by simpa using hx), offsetAfter_concat] at h
      exact absurd rfl h
    · rw [hsplit, offsetAfter_concat]
      exact ⟨shift, hmem, by omega, hle, rfl⟩

/-- The year of an instant. -/
def yearAt (x : Int) : Nat :=
  Date.yearOf ((x / 86400).toNat + 1)

theorem yearAt_bounds {x : Int} (hx : 0 ≤ x) : 1 ≤ yearAt x ∧
    86400 * (daysBeforeYear (yearAt x) : Int) ≤ x ∧
      x < 86400 * (daysBeforeYear (yearAt x + 1) : Int) := by
  obtain ⟨hyear, hlow, hhigh⟩ := Date.yearOf_bounds (Nat.le_add_left 1 (x / 86400).toNat)
  have hlow : daysBeforeYear (yearAt x) < (x / 86400).toNat + 1 := hlow
  have hhigh : (x / 86400).toNat + 1 ≤ daysBeforeYear (yearAt x + 1) := hhigh
  exact ⟨hyear, by omega, by omega⟩

/-- The changes of a year have not passed before its second day. -/
theorem filter_later {x : Int} {year : Nat} (hyear : 1 ≤ year)
    (hx : x < 86400 * (daysBeforeYear year : Int) + 86400) :
    (region.shifts year).filter (·.instant ≤ x) = [] := by
  rw [List.filter_eq_nil_iff]
  intro shift hshift
  obtain ⟨day, hour, hchange⟩ := Region.change_of_mem hshift
  have hbounds := (hchange.instant_bounds hyear).1
  simp only [decide_eq_true_eq]
  omega

/-- The changes of a year have passed on its last day. -/
theorem filter_earlier {x : Int} {year : Nat} (hyear : 1 ≤ year)
    (hx : 86400 * (daysBeforeYear (year + 1) : Int) ≤ x + 86400) :
    (region.shifts year).filter (·.instant ≤ x) = region.shifts year := by
  rw [List.filter_eq_self]
  intro shift hshift
  obtain ⟨day, hour, hchange⟩ := Region.change_of_mem hshift
  have hbounds := (hchange.instant_bounds hyear).2
  simp only [decide_eq_true_eq]
  omega

/-- Once the changes of a year have passed, those of the year before it do not matter. -/
theorem offsetAfter_year {year : Nat} (hyear : 1 ≤ year) (p : Shift → Bool) :
    offsetAfter region ((region.shifts (year - 1)).filter p ++ region.shifts year) =
      offsetAfter region (region.shifts year) := by
  by_cases hnone : region.shifts year = []
  · have hnext : region.shifts (year - 1 + 1) = [] := by rwa [Nat.sub_add_cancel hyear]
    have hbefore := Region.offsetAfter_of_next_nil hnext p
    rw [hnone, List.append_nil, hbefore]
    rfl
  · rw [← List.dropLast_concat_getLast hnone, ← List.append_assoc, offsetAfter_concat,
      offsetAfter_concat]

/-- The offset at an instant that is in a year, or not more than a day away from it, can be told
    from the changes of that year and of the one before. -/
theorem offsetAt_eq_near {x : Int} {year : Nat} (hx : 0 ≤ x) (hyear : 1 ≤ year)
    (hlow : 86400 * (daysBeforeYear year : Int) ≤ x + 86400)
    (hhigh : x < 86400 * (daysBeforeYear (year + 1) : Int) + 86400) :
    (seasonal region).offsetAt x = offsetAfter region
      ((region.shifts (year - 1) ++ region.shifts year).filter (·.instant ≤ x)) := by
  obtain ⟨hat, hatLow, hatHigh⟩ := yearAt_bounds hx
  have hlength (y : Nat) : daysBeforeYear (y + 1) + 365 ≤ daysBeforeYear (y + 1 + 1) := by
    have hyear := yearLength_ge (y + 1)
    rw [daysBeforeYear_succ (Nat.le_add_left 1 y)]
    omega
  have hoffset : (seasonal region).offsetAt x = offsetAfter region
      ((region.shifts (yearAt x - 1) ++ region.shifts (yearAt x)).filter (·.instant ≤ x)) := rfl
  rcases Nat.lt_trichotomy (yearAt x) year with hlt | heq | hgt
  · -- The day before the year: none of its changes have passed, and all of those before it.
    have hprevious : year = yearAt x + 1 := by
      apply Nat.le_antisymm _ hlt
      apply Nat.le_of_not_lt
      intro hfar
      have hdays : daysBeforeYear (yearAt x + 1 + 1) ≤ daysBeforeYear year := daysBeforeYear_le hfar
      have hnext := hlength (yearAt x)
      omega
    subst hprevious
    rw [hoffset, Nat.add_sub_cancel, List.filter_append, List.filter_append,
      filter_earlier hat hlow, filter_later hyear (by omega), List.append_nil]
    exact offsetAfter_year hat _
  · rw [hoffset, heq]
  · -- The day after the year: all of its changes have passed, and none of those after it.
    have hnext : yearAt x = year + 1 := by
      apply Nat.le_antisymm _ hgt
      apply Nat.le_of_not_lt
      intro hfar
      have hdays : daysBeforeYear (year + 1 + 1) ≤ daysBeforeYear (yearAt x) :=
        daysBeforeYear_le hfar
      have hlater := hlength year
      omega
    rw [hnext] at hoffset hatLow
    rw [hoffset, Nat.add_sub_cancel, List.filter_append, List.filter_append,
      filter_earlier hyear (by omega), filter_later (Nat.le_add_left 1 year) hhigh, List.append_nil]
    exact (offsetAfter_year hyear _).symm

theorem mem_shiftsNear {seconds : Int} {shift : Shift} (h : shift ∈ region.shiftsNear seconds) :
    ∃ year, shift ∈ region.shifts year := by
  rcases List.mem_append.mp h with h | h <;> exact ⟨_, h⟩

/-- Within an hour the day that a clock shows does not go back. -/
theorem localDay_le_of_near {x y : Int} (hx : 0 ≤ x) (hxy : x ≤ y) (hnear : y < x + 3600) :
    (x + (seasonal region).offsetAt x) / 86400 ≤ (y + (seasonal region).offsetAt y) / 86400 := by
  obtain ⟨hyear, hlow, hhigh⟩ := yearAt_bounds hx
  rw [offsetAt_eq_near hx hyear (by omega) (by omega),
    offsetAt_eq_near (Int.le_trans hx hxy) hyear (by omega) (by omega)]
  have hcases (z : Int) :
      let offset := offsetAfter region
        ((region.shifts (yearAt x - 1) ++ region.shifts (yearAt x)).filter (·.instant ≤ z))
      offset = region.standard ∨ offset = region.standard + 3600 :=
    offsetAfter_cases fun _ hshift => @mem_shiftsNear region x _ (List.mem_filter.mp hshift).1
  by_cases hback : offsetAfter region
      ((region.shifts (yearAt x - 1) ++ region.shifts (yearAt x)).filter (·.instant ≤ y)) <
        offsetAfter region
          ((region.shifts (yearAt x - 1) ++ region.shifts (yearAt x)).filter (·.instant ≤ x))
  · -- Both readings lie in the hour that is shown twice, or outside it in their order.
    obtain ⟨shift, hmem, hlt, hle, -⟩ := exists_shift hxy (Int.ne_of_gt hback)
    obtain ⟨year, hmem⟩ := @mem_shiftsNear region x _ hmem
    obtain ⟨day, hour, hchange⟩ := Region.change_of_mem hmem
    have hinstant := hchange.instant
    have hge := hchange.hour_ge
    have hhour := hchange.hour_le
    rcases hcases x with hx | hx <;> rcases hcases y with hy | hy <;>
      rw [hx, hy] at hback ⊢ <;> omega
  · exact Int.ediv_le_ediv (by decide) (by omega)

theorem offsetAt_cases (region : Region) (x : Int) :
    (seasonal region).offsetAt x = region.standard ∨
      (seasonal region).offsetAt x = region.standard + 3600 :=
  offsetAfter_cases fun _ hshift => mem_shiftsNear (List.mem_filter.mp hshift).1

/-- The day that a clock shows does not go back. -/
theorem localDay_le (zone : Zone) {x y : Int} (hx : 0 ≤ x) (hxy : x ≤ y) :
    (x + zone.offsetAt x) / 86400 ≤ (y + zone.offsetAt y) / 86400 := by
  cases zone with
  | fixed offset => exact Int.ediv_le_ediv (by decide) (Int.add_le_add_right hxy offset)
  | seasonal region =>
    by_cases hnear : y < x + 3600
    · exact localDay_le_of_near hx hxy hnear
    · -- An hour makes up for every change of the offset.
      apply Int.ediv_le_ediv (by decide)
      rcases offsetAt_cases region x with h | h <;> rcases offsetAt_cases region y with h' | h' <;>
        rw [h, h'] <;> omega

end Zone

/-! ## Dates -/

/-- The day that a clock shows at a moment is that of the seconds which it shows. -/
theorem Moment.dayNumber_dateIn {zone : Zone} {m here : Moment} (hreal : m.IsReal zone)
    (h : m.inZone zone = .ok here) : 0 ≤ m.instant ∧ (m.dateIn zone).dayNumber =
      ((m.instant / microsPerSecond + zone.offsetAt (m.instant / microsPerSecond)) / 86400).toNat
        + 1 := by
  obtain ⟨shown, hshown, -⟩ := hreal.exists_shownIn h
  have hnonneg : 0 ≤ m.instant := by
    have hinstant := (shownIn_eq_ok.mp hshown).1
    exact of_decide_eq_true (Bool.and_eq_true_iff.mp hinstant).1
  refine ⟨hnonneg, ?_⟩
  have hday : microsPerDay = microsPerSecond * 86400 := rfl
  rw [dateIn_of_inZone h]
  unfold date dayNumber
  rw [hreal.reading_of_inZone h, Date.dayNumber_ofDayNumber (Nat.le_add_left 1 _), hday,
    ← Int.ediv_ediv_of_nonneg (by decide), Int.add_mul_ediv_right _ _ (by decide)]

/-- On the clock of a zone later instants have no earlier dates. -/
theorem Moment.dayNumber_dateIn_le {zone : Zone} {a b here there : Moment}
    (hrealA : a.IsReal zone) (hrealB : b.IsReal zone) (ha : a.inZone zone = .ok here)
    (hb : b.inZone zone = .ok there) (h : a.instant ≤ b.instant) :
    (a.dateIn zone).dayNumber ≤ (b.dateIn zone).dayNumber := by
  obtain ⟨hnonneg, hdayA⟩ := dayNumber_dateIn hrealA ha
  obtain ⟨-, hdayB⟩ := dayNumber_dateIn hrealB hb
  have hle := zone.localDay_le (Int.ediv_nonneg hnonneg (by decide : 0 ≤ microsPerSecond))
    (Int.ediv_le_ediv (by decide : 0 < microsPerSecond) h)
  omega

end SerialNumbers.Time
