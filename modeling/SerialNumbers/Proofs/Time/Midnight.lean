/-
  SerialNumbers.Proofs.Time.Midnight

  Where a day starts on the clock of a zone.  The clock may skip the midnight of
  a day, and it may be put back just when it would have come to one; a midnight
  that is read then still stands for the first instant at which the clock shows
  that day.  Main statement: before the instant that the midnight of a day stands
  for the clock shows earlier days, and from then on it does not
  (`Zone.localDay_lt_iff`).
-/
import SerialNumbers.Proofs.Time.Zone

namespace SerialNumbers.Time

namespace Region

variable {region : Region} {year : Nat} {shift : Shift}

/-- A change is between the offset of the winter and that of the summer. -/
theorem offsets_of_mem (h : shift ∈ region.shifts year) :
    min shift.before shift.after = region.standard ∧
      max shift.before shift.after = region.standard + 3600 := by
  cases region with
  | newYork =>
    rcases List.mem_cons.mp h with rfl | h
    · exact ⟨rfl, rfl⟩
    · rw [List.mem_singleton.mp h]
      exact ⟨rfl, rfl⟩
  | berlin =>
    rcases List.mem_cons.mp h with rfl | h
    · exact ⟨rfl, rfl⟩
    · rw [List.mem_singleton.mp h]
      exact ⟨rfl, rfl⟩
  | auckland =>
    rcases List.mem_cons.mp h with rfl | h
    · exact ⟨rfl, rfl⟩
    · rw [List.mem_singleton.mp h]
      exact ⟨rfl, rfl⟩
  | saoPaulo =>
    unfold shifts at h
    dsimp only at h
    split at h
    · rw [List.mem_singleton.mp h]
      exact ⟨rfl, rfl⟩
    · rcases List.mem_cons.mp h with rfl | h
      · exact ⟨rfl, rfl⟩
      · rw [List.mem_singleton.mp h]
        exact ⟨rfl, rfl⟩
    · rw [List.mem_singleton.mp h]
      exact ⟨rfl, rfl⟩
    · exact absurd h List.not_mem_nil

/-- Only one region changes its clocks at midnight, on two days. -/
theorem midnight_of_mem (h : shift ∈ region.shifts year) {day : Int}
    (hmidnight : shift.instant + region.standard = 86400 * day) : region = saoPaulo ∧
      (day + 1 = (Date.mk 2017 10 15).dayNumber ∨ day + 1 = (Date.mk 2018 11 4).dayNumber) := by
  cases region with
  | newYork =>
    rcases List.mem_cons.mp h with rfl | h
    · have hreading : daySeconds (nthSunday year 3 2) (hours 2) - hours (-5) + hours (-5) =
          86400 * day := hmidnight
      unfold daySeconds hours at hreading
      omega
    · rw [List.mem_singleton.mp h] at hmidnight
      have hreading : daySeconds (nthSunday year 11 1) (hours 2) - (hours (-5) + hours 1) +
          hours (-5) = 86400 * day := hmidnight
      unfold daySeconds hours at hreading
      omega
  | berlin =>
    rcases List.mem_cons.mp h with rfl | h
    · have hreading : daySeconds (lastSunday year 3) (hours 1) + hours 1 = 86400 * day := hmidnight
      unfold daySeconds hours at hreading
      omega
    · rw [List.mem_singleton.mp h] at hmidnight
      have hreading : daySeconds (lastSunday year 10) (hours 1) + hours 1 = 86400 * day := hmidnight
      unfold daySeconds hours at hreading
      omega
  | auckland =>
    rcases List.mem_cons.mp h with rfl | h
    · have hreading : daySeconds (nthSunday year 4 1) (hours 3) - (hours 12 + hours 1) +
          hours 12 = 86400 * day := hmidnight
      unfold daySeconds hours at hreading
      omega
    · rw [List.mem_singleton.mp h] at hmidnight
      have hreading : daySeconds (lastSunday year 9) (hours 2) - hours 12 + hours 12 =
          86400 * day := hmidnight
      unfold daySeconds hours at hreading
      omega
  | saoPaulo =>
    refine ⟨rfl, ?_⟩
    -- Three years have changes, and the ones in February are an hour before midnight.
    unfold shifts at h
    dsimp only at h
    split at h
    · rw [List.mem_singleton.mp h] at hmidnight
      left
      have hreading : (736616 : Int) * 86400 = 86400 * day := hmidnight
      have hday : (Date.mk 2017 10 15).dayNumber = 736617 := by decide
      omega
    · rcases List.mem_cons.mp h with rfl | h
      · have hreading : (736742 : Int) * 86400 - 3600 = 86400 * day := hmidnight
        omega
      · rw [List.mem_singleton.mp h] at hmidnight
        right
        have hreading : (737001 : Int) * 86400 = 86400 * day := hmidnight
        have hday : (Date.mk 2018 11 4).dayNumber = 737002 := by decide
        omega
    · rw [List.mem_singleton.mp h] at hmidnight
      have hreading : (737106 : Int) * 86400 - 3600 = 86400 * day := hmidnight
      omega
    · exact absurd h List.not_mem_nil

/-- Where clocks are changed at midnight they are not put back near that day. -/
theorem apart_of_midnight {back : Shift} {year' : Nat} (h : shift ∈ region.shifts year) {day : Int}
    (hmidnight : shift.instant + region.standard = 86400 * day)
    (hmem : back ∈ region.shifts year') (hback : back.after < back.before) :
    back.instant + region.standard + 7200 < 86400 * day ∨
      86400 * (day + 1) ≤ back.instant + region.standard := by
  obtain ⟨rfl, hday⟩ := midnight_of_mem h hmidnight
  have hdays : day + 1 = 736617 ∨ day + 1 = 737002 := hday
  have hstandard : saoPaulo.standard = -10800 := rfl
  rw [hstandard]
  unfold shifts at hmem
  dsimp only at hmem
  split at hmem
  · rw [List.mem_singleton.mp hmem] at hback
    exact absurd hback (by decide)
  · rcases List.mem_cons.mp hmem with rfl | hmem
    · show (736742 : Int) * 86400 + 7200 + -10800 + 7200 < _ ∨
        _ ≤ (736742 : Int) * 86400 + 7200 + -10800
      omega
    · rw [List.mem_singleton.mp hmem] at hback
      exact absurd hback (by decide)
  · rw [List.mem_singleton.mp hmem]
    show (737106 : Int) * 86400 + 7200 + -10800 + 7200 < _ ∨
      _ ≤ (737106 : Int) * 86400 + 7200 + -10800
    omega
  · exact absurd hmem List.not_mem_nil

end Region

/-! ## Midnights -/

namespace Zone

variable {region : Region}

/-- The clock of the zone is not changed at the midnight of a day, counted from 0. -/
def KeepsMidnight (zone : Zone) (day : Int) : Prop :=
  ∀ region, zone = seasonal region → ∀ year, ∀ shift ∈ region.shifts year,
    shift.instant + region.standard ≠ 86400 * day

/-- Clocks are not changed at the start of a month. -/
theorem keepsMidnight_of_day {d : Date} (h : d.Valid) (hday : d.day = 1) (zone : Zone) :
    zone.KeepsMidnight (d.dayNumber - 1) := by
  intro region _ year shift hshift hmidnight
  -- The two days with such a change are not the first ones of their months.
  have hother {e : Date} (he : e.Valid) (hfirst : e.day ≠ 1)
      (heq : (d.dayNumber : Int) - 1 + 1 = e.dayNumber) : False :=
    hfirst (h.eq_of_dayNumber he (by omega) ▸ hday)
  obtain ⟨-, heq | heq⟩ := Region.midnight_of_mem hshift hmidnight
  · exact hother ⟨by decide, by decide, by decide, by decide, by decide⟩ (by decide) heq
  · exact hother ⟨by decide, by decide, by decide, by decide, by decide⟩ (by decide) heq

/-- On a day with a later pass over its readings the clock is not changed at midnight. -/
theorem keepsMidnight_of_late {zone : Zone} {x : Int} (h : zone.isLatePass x = true) :
    zone.KeepsMidnight ((x + zone.offsetAt x) / 86400) := by
  rintro region rfl year shift hshift hmidnight
  obtain ⟨back, hmem, hpass⟩ := List.any_eq_true.mp h
  obtain ⟨hlow, hhigh⟩ := Bool.and_eq_true_iff.mp hpass
  have hlow := of_decide_eq_true hlow
  have hhigh := of_decide_eq_true hhigh
  obtain ⟨year', hmem⟩ := mem_shiftsNear hmem
  obtain ⟨hmin, hmax⟩ := Region.offsets_of_mem hmem
  have hoffset := offsetAt_cases region x
  have hapart := Region.apart_of_midnight hshift hmidnight hmem (by omega)
  omega

/-- Both passes over a midnight are at one offset, unless the clock is changed at it. -/
theorem offsetOf_midnight {zone : Zone} {day : Int} (h : zone.KeepsMidnight day) (late : Bool) :
    zone.offsetOf late (86400 * day) = zone.offsetOf false (86400 * day) := by
  cases late with
  | false => rfl
  | true =>
    cases zone with
    | fixed offset => rfl
    | seasonal region =>
      show offsetAfter region _ = offsetAfter region _
      congr 1
      apply List.filter_congr
      intro shift hshift
      -- Changes are at full hours, so none is within the hour between the two passes.
      obtain ⟨year, hshift⟩ := mem_shiftsNear hshift
      obtain ⟨hmin, hmax⟩ := Region.offsets_of_mem hshift
      obtain ⟨changeDay, hour, hchange⟩ := Region.change_of_mem hshift
      have hinstant := hchange.instant
      have hkept := h region rfl year shift hshift
      rw [hmin, hmax, decide_eq_decide]
      simp only [if_true, Bool.false_eq_true, if_false]
      omega

/-- The offset stays the same while the clocks are not changed. -/
theorem offsetAt_eq_of_quiet {x y : Int} (hx : 0 ≤ x) (hxy : x ≤ y) (hnear : y < x + 86400)
    (hquiet : ∀ year, ∀ shift ∈ region.shifts year, ¬(x < shift.instant ∧ shift.instant ≤ y)) :
    (seasonal region).offsetAt x = (seasonal region).offsetAt y := by
  obtain ⟨hyear, hlow, hhigh⟩ := yearAt_bounds hx
  rw [offsetAt_eq_near hx hyear (by omega) (by omega),
    offsetAt_eq_near (Int.le_trans hx hxy) hyear (by omega) (by omega)]
  congr 1
  apply List.filter_congr
  intro shift hshift
  obtain ⟨year, hshift⟩ := @mem_shiftsNear region x shift hshift
  have hquiet := hquiet year shift hshift
  rw [decide_eq_decide]
  omega

/-- A reading of the earlier pass is taken at the offset of the instant at which the clock of the
    summer shows it. -/
theorem offsetOf_eq_offsetAt {reading : Int} (h : 86400 ≤ reading) :
    (seasonal region).offsetOf false reading =
      (seasonal region).offsetAt (reading - (region.standard + 3600)) := by
  obtain ⟨hyear, hlow, hhigh⟩ := @yearAt_bounds reading (by omega)
  have hstandard := region.standard_bounds
  rw [offsetAt_eq_near (by omega) hyear (by omega) (by omega)]
  show offsetAfter region ((region.shifts (yearAt reading - 1) ++
    region.shifts (yearAt reading)).filter _) = _
  congr 1
  apply List.filter_congr
  intro shift hshift
  obtain ⟨year, hshift⟩ := @mem_shiftsNear region reading shift hshift
  rw [decide_eq_decide, if_neg Bool.false_ne_true, (Region.offsets_of_mem hshift).2]
  omega

/-- No change is within the hour before a midnight of the winter. -/
theorem offsetAt_before_midnight {day : Int} (hday : 1 ≤ day) :
    (seasonal region).offsetAt (86400 * day - (region.standard + 3600)) =
      (seasonal region).offsetAt (86400 * day - region.standard - 1) := by
  have hstandard := region.standard_bounds
  apply offsetAt_eq_of_quiet (by omega) (by omega) (by omega)
  rintro year shift hshift ⟨hlow, hhigh⟩
  obtain ⟨changeDay, hour, hchange⟩ := Region.change_of_mem hshift
  have hinstant := hchange.instant
  omega

/-- Before the instant that the midnight of a day stands for the clock shows earlier days, and
    from then on it does not. -/
theorem localDay_lt_iff (zone : Zone) {day x : Int} (hday : 1 ≤ day) (hx : 0 ≤ x) :
    (x + zone.offsetAt x) / 86400 < day ↔
      x < 86400 * day - zone.offsetOf false (86400 * day) := by
  cases zone with
  | fixed offset =>
    show (x + offset) / 86400 < day ↔ x < 86400 * day - offset
    omega
  | seasonal region =>
    rw [offsetOf_eq_offsetAt (by omega)]
    have hstandard := region.standard_bounds
    have hcases := offsetAt_cases region x
    rcases offsetAt_cases region (86400 * day - (region.standard + 3600)) with hoffset | hoffset
    · -- In winter the last second of the day before is just before the midnight.
      have hlast := hoffset
      rw [offsetAt_before_midnight hday] at hlast
      rw [hoffset]
      constructor
      · intro hlt
        omega
      · intro hlt
        have hle := (seasonal region).localDay_le hx
          (show x ≤ 86400 * day - region.standard - 1 by omega)
        rw [hlast] at hle
        omega
    · -- In summer the midnight is the first second of the day.
      rw [hoffset]
      constructor
      · intro hlt
        apply Int.lt_of_not_ge
        intro hge
        have hle := (seasonal region).localDay_le
          (show 0 ≤ 86400 * day - (region.standard + 3600) by omega) hge
        rw [hoffset] at hle
        omega
      · intro hlt
        omega

end Zone
end SerialNumbers.Time
