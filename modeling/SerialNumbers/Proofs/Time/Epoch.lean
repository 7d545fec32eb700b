/-
  SerialNumbers.Proofs.Time.Epoch

  Moments since 1970 on the clock of a zone.  A clock that is put forward or back
  shows some readings twice or not at all, but none of them within an hour of
  the start of 1970; so what it shows since then stands for an instant since then
  (`Time.Moment.epochReading_le_of_inZone`).
-/
import SerialNumbers.Proofs.Time.Zone

namespace SerialNumbers.Time

namespace Zone

variable {region : Region}

theorem offsetOf_cases (region : Region) (late : Bool) (reading : Int) :
    (seasonal region).offsetOf late reading = region.standard ∨
      (seasonal region).offsetOf late reading = region.standard + 3600 :=
  offsetAfter_cases fun _ hshift => mem_shiftsNear (List.mem_filter.mp hshift).1

/-- The changes that can matter to a second of a day. -/
theorem shiftsNear_of_day {second : Int} {day : Nat} (h : second / 86400 = day) :
    region.shiftsNear second =
      region.shifts (Date.yearOf (day + 1) - 1) ++ region.shifts (Date.yearOf (day + 1)) := by
  unfold Region.shiftsNear
  dsimp only
  rw [h]
  rfl

theorem filter_of_split {p : Shift → Bool} {passed coming : List Shift}
    (hpassed : ∀ shift ∈ passed, p shift = true) (hcoming : ∀ shift ∈ coming, ¬p shift = true) :
    (passed ++ coming).filter p = passed := by
  rw [List.filter_append, List.filter_eq_self.mpr hpassed, List.filter_eq_nil_iff.mpr hcoming,
    List.append_nil]

/-- The offset at a reading of an hour with no changes: the last one before it gives it. -/
theorem offsetOf_of_quiet {late : Bool} {reading first : Int} {day : Nat}
    (passed coming : List Shift)
    (hday : reading / 86400 = day) (hfirst : first ≤ reading) (hhour : reading < first + 3600)
    (hsplit : region.shifts (Date.yearOf (day + 1) - 1) ++ region.shifts (Date.yearOf (day + 1)) =
      passed ++ coming)
    (hpassed : ∀ shift ∈ passed, shift.instant + max shift.before shift.after ≤ first)
    (hcoming : ∀ shift ∈ coming, first + 3600 ≤ shift.instant + min shift.before shift.after) :
    (seasonal region).offsetOf late reading = offsetAfter region passed := by
  unfold offsetOf
  dsimp only
  rw [shiftsNear_of_day hday, hsplit, filter_of_split]
  · intro shift hshift
    have hpassed := hpassed shift hshift
    rw [decide_eq_true_eq]
    split <;> omega
  · intro shift hshift
    have hcoming := hcoming shift hshift
    rw [decide_eq_true_eq]
    split <;> omega

/-- The first second of 1970. -/
def epochSecond : Int := 719162 * 86400

/-- At the start of 1970 it is summer on the clock that is ahead of all others. -/
theorem offsetAt_auckland_epoch {second : Int} (hfirst : epochSecond ≤ second)
    (hhour : second < epochSecond + 3600) :
    (seasonal .auckland).offsetAt second = Region.auckland.standard + 3600 := by
  have hday : second / 86400 = (719162 : Nat) := by
    unfold epochSecond at hfirst hhour
    omega
  have hpassed : ∀ shift ∈ Region.auckland.shifts (Date.yearOf (719162 + 1) - 1),
      shift.instant ≤ epochSecond := by
    decide +kernel
  have hcoming : ∀ shift ∈ Region.auckland.shifts (Date.yearOf (719162 + 1)),
      epochSecond + 3600 ≤ shift.instant := by
    decide +kernel
  unfold offsetAt
  dsimp only
  rw [shiftsNear_of_day hday, filter_of_split]
  · decide +kernel
  · intro shift hshift
    have hpassed := hpassed shift hshift
    rw [decide_eq_true_eq]
    omega
  · intro shift hshift
    have hcoming := hcoming shift hshift
    rw [decide_eq_true_eq]
    omega

/-- In the first hour of 1970 what the clock shows is read at no larger offset than it was
    shown. -/
theorem offsetOf_le_offsetAt_epoch (region : Region) (late : Bool) {second : Int}
    (hfirst : epochSecond ≤ second) (hhour : second < epochSecond + 3600) :
    (seasonal region).offsetOf late (second + (seasonal region).offsetAt second) ≤
      (seasonal region).offsetAt second := by
  rcases offsetAt_cases region second with hat | hat
  · -- In winter time the reading is known up to an hour, and so are the changes near it.
    rw [hat]
    apply Int.le_of_eq
    unfold epochSecond at hfirst hhour
    cases region with
    | newYork =>
      have hstandard : Region.newYork.standard = -18000 := rfl
      have hday : (second + Region.newYork.standard) / 86400 = (719161 : Nat) := by omega
      have hlow : 719162 * 86400 - 18000 ≤ second + Region.newYork.standard := by omega
      exact (offsetOf_of_quiet (Region.newYork.shifts 1968 ++ Region.newYork.shifts 1969) [] hday
        hlow (by omega) rfl (by decide +kernel) (List.forall_mem_nil _)).trans (by decide +kernel)
    | berlin =>
      have hstandard : Region.berlin.standard = 3600 := rfl
      have hday : (second + Region.berlin.standard) / 86400 = (719162 : Nat) := by omega
      have hlow : 719162 * 86400 + 3600 ≤ second + Region.berlin.standard := by omega
      exact (offsetOf_of_quiet (Region.berlin.shifts 1969) (Region.berlin.shifts 1970) hday hlow
        (by omega) rfl (by decide +kernel) (by decide +kernel)).trans (by decide +kernel)
    | auckland =>
      rw [offsetAt_auckland_epoch hfirst hhour] at hat
      cases hat
    | saoPaulo =>
      have hstandard : Region.saoPaulo.standard = -10800 := rfl
      have hday : (second + Region.saoPaulo.standard) / 86400 = (719161 : Nat) := by omega
      have hlow : 719162 * 86400 - 10800 ≤ second + Region.saoPaulo.standard := by omega
      exact offsetOf_of_quiet [] [] hday hlow (by omega) rfl (List.forall_mem_nil _)
        (List.forall_mem_nil _)
  · have hof := offsetOf_cases region late (second + (seasonal region).offsetAt second)
    omega

end Zone

namespace Moment

/-- A reading that is shown at one offset may be read at another. -/
theorem instant_of_shownIn {zone : Zone} {m shown : Moment} (h : m.shownIn zone = .ok shown) :
    shown.instant = m.instant + (zone.offsetAt (m.instant / microsPerSecond) -
      zone.offsetOf shown.late (m.instant / microsPerSecond +
        zone.offsetAt (m.instant / microsPerSecond))) * microsPerSecond := by
  obtain ⟨-, -, rfl⟩ := shownIn_eq_ok.mp h
  have hseconds : (m.instant + zone.offsetAt (m.instant / microsPerSecond) * microsPerSecond) /
      microsPerSecond =
      m.instant / microsPerSecond + zone.offsetAt (m.instant / microsPerSecond) :=
    Int.add_mul_ediv_right _ _ (by decide)
  show m.instant + zone.offsetAt (m.instant / microsPerSecond) * microsPerSecond -
    zone.offsetOf (zone.isLatePass (m.instant / microsPerSecond))
      ((m.instant + zone.offsetAt (m.instant / microsPerSecond) * microsPerSecond) /
        microsPerSecond) * microsPerSecond = _
  rw [hseconds, Int.sub_mul, Int.add_sub_assoc]

/-- What a clock shows of a moment since 1970 stands for an instant since 1970. -/
theorem epochReading_le_of_shownIn {zone : Zone} {m shown : Moment}
    (hm : epochReading ≤ m.instant) (h : m.shownIn zone = .ok shown) :
    epochReading ≤ shown.instant := by
  have hepoch : epochReading = Zone.epochSecond * 1000000 := by decide +kernel
  have hfirst : Zone.epochSecond ≤ m.instant / 1000000 := by omega
  rw [instant_of_shownIn h]
  unfold microsPerSecond
  cases zone with
  | fixed offset =>
    show epochReading ≤ m.instant + (offset - offset) * 1000000
    omega
  | seasonal region =>
    have hat := Zone.offsetAt_cases region (m.instant / 1000000)
    have hof := Zone.offsetOf_cases region shown.late
      (m.instant / 1000000 + (Zone.seasonal region).offsetAt (m.instant / 1000000))
    by_cases hhour : m.instant / 1000000 < Zone.epochSecond + 3600
    · have hle := Zone.offsetOf_le_offsetAt_epoch region shown.late hfirst hhour
      omega
    · omega

theorem epochReading_le_of_inZone {zone : Zone} {m here : Moment}
    (hm : epochReading ≤ m.instant) (h : m.inZone zone = .ok here) :
    epochReading ≤ here.instant := by
  rcases inZone_eq_ok_iff.mp h with ⟨-, -, rfl⟩ | ⟨-, hshown⟩
  · exact hm
  · exact epochReading_le_of_shownIn hm hshown

end Moment

end SerialNumbers.Time
