/-
  SerialNumbers.Proofs.Remaining

  The time that is left of a period.  It is told as the clock of the zone shows
  it: by the readings of the moment and of the midnight that starts the next
  period.  A counter starts again when so much time has passed as lies between
  the instants of the two.

  Main statement: the time that is told is the time that passes, plus the change
  of the offset in between, so it is right just where the clock is not changed
  (`Period.remaining_eq_elapsed_add_change`).
-/
import SerialNumbers.Proofs.Succession

namespace SerialNumbers

open Time

variable {p : Period} {zone : Zone} {a b c m n t here : Moment} {same : Bool}

namespace Time.Moment

/-- A reading is ahead of its instant by its offset. -/
theorem reading_eq_instant_add (m : Moment) :
    m.reading = m.instant + m.offset?.getD 0 * microsPerSecond := by
  unfold instant
  rw [Int.sub_add_cancel]

/-- The offset at which the clock of a zone shows a moment: a moment that is on that clock keeps its
    own, for others it is that of the instant. -/
def offsetIn (zone : Zone) (m : Moment) : Int :=
  if m.isOn zone then m.offset?.getD 0 else zone.offsetAt (m.instant / microsPerSecond)

theorem reading_of_inZone (h : m.inZone zone = .ok here) :
    here.reading = m.instant + m.offsetIn zone * microsPerSecond := by
  unfold offsetIn
  rcases inZone_eq_ok_iff.mp h with ⟨hon, -, rfl⟩ | ⟨hon, hshown⟩
  · rw [if_pos hon]
    exact m.reading_eq_instant_add
  · rw [hon]
    obtain ⟨-, -, rfl⟩ := shownIn_eq_ok.mp hshown
    rfl

end Time.Moment

namespace Period

/-! ## Spans -/

theorem inZone_of_sameSpan (h : p.sameSpan zone a b = .ok same) :
    ∃ here there, a.inZone zone = .ok here ∧ b.inZone zone = .ok there := by
  obtain ⟨first, hfirst, h⟩ := Except.bind_eq_ok.mp h
  obtain ⟨second, hsecond, h⟩ := Except.bind_eq_ok.mp h
  obtain ⟨here, hhere, -⟩ := Except.bind_eq_ok.mp hfirst
  obtain ⟨there, hthere, -⟩ := Except.bind_eq_ok.mp hsecond
  exact ⟨here, there, hhere, hthere⟩

/-- Moments of one period lie in the same periods. -/
theorem sameSpan_trans (hp : p.isTimeBased = true) (hab : p.sameSpan zone a b = .ok true)
    (hbc : p.sameSpan zone b c = .ok same) : p.sameSpan zone a c = .ok same := by
  obtain ⟨-, there, -, hc⟩ := inZone_of_sameSpan hbc
  obtain ⟨first, second, ha, hb⟩ := inZone_of_sameSpan hab
  rw [sameSpan_of_inZone hp ha hb, Except.ok.injEq, decide_eq_true_iff] at hab
  rw [sameSpan_of_inZone hp ha hc, hab, ← sameSpan_of_inZone hp hb hc, hbc]

/-- A tally that is not due at a moment is due at a later one just when that is not of the same
    period. -/
theorem dueByTime_of_sameSpan (hp : p.isTimeBased = true) {tally : Tally}
    (hdue : tally.dueByTime p zone m = .ok false) (hspan : p.sameSpan zone m t = .ok same) :
    tally.dueByTime p zone t = .ok (!same) := by
  unfold Tally.dueByTime at hdue ⊢
  rw [if_pos hp] at hdue ⊢
  -- The reference lies in the period of the moment, so both leave it together.
  obtain ⟨within, hwithin, hdue⟩ := Except.bind_eq_ok.mp hdue
  have htrue : within = true := by simpa using Except.ok.inj hdue
  subst htrue
  rw [sameSpan_trans hp hwithin hspan]
  rfl

/-! ## The time that is told -/

/-- The time that is told to be left of a period differs from the time that passes up to the next
    one by the change of the offset in between.  So it leads to the start of the next period just
    where the offset is the same at both, as in every zone with a fixed offset.  Whatever is not due
    at a moment which the clock shows becomes due at that start, and not before. -/
theorem remaining_eq_elapsed_add_change (hzone : zone.WithinDay)
    (hnext : p.next? zone m = .ok (some n)) :
    ∃ told, p.remaining? zone m = .ok (some told) ∧
      told = n.instant - m.instant + (n.offset?.getD 0 - m.offsetIn zone) * microsPerSecond ∧
      (m.instant + told = n.instant ↔ n.offset?.getD 0 = m.offsetIn zone) ∧
      (∀ offset, zone = .fixed offset → m.instant + told = n.instant) ∧
      (m.IsReal zone → ∀ tally : Tally, tally.dueByTime p zone m = .ok false →
        tally.dueByTime p zone n = .ok true ∧
          ∀ t : Moment, t.IsReal zone → m.instant ≤ t.instant → t.instant ≤ n.instant →
            tally.dueByTime p zone t = .ok (decide (n.instant ≤ t.instant))) := by
  obtain ⟨here, hhere, -⟩ := Except.bind_eq_ok.mp hnext
  have htold : p.remaining? zone m = .ok (some (n.reading - here.reading)) := by
    unfold remaining?
    rw [hnext, hhere]
    rfl
  have htime : n.reading - here.reading = n.instant - m.instant +
      (n.offset?.getD 0 - m.offsetIn zone) * microsPerSecond := by
    rw [n.reading_eq_instant_add, Moment.reading_of_inZone hhere, Int.sub_mul]
    omega
  have hiff : m.instant + (n.reading - here.reading) = n.instant ↔
      n.offset?.getD 0 = m.offsetIn zone := by
    rw [htime]
    unfold microsPerSecond
    omega
  refine ⟨_, htold, htime, hiff, ?_, ?_⟩
  · rintro offset rfl
    apply hiff.mpr
    unfold Moment.offset?
    rw [(opens_of_next? hnext).1.onClock]
    rfl
  · intro hreal tally hdue
    have hp := isTimeBased_of_next? hnext
    refine ⟨dueByTime_of_sameSpan hp hdue (next_first hzone hreal hnext).2.2, ?_⟩
    intro t ht hle hlast
    rw [dueByTime_of_sameSpan hp hdue (sameSpan_until_next hzone hreal hnext ht hle hlast),
      ← decide_not, decide_eq_decide.mpr Int.not_lt]

/-- On the day on which the clocks of New York are put forward, half past midnight: 23.5 hours are
    told, and the next day starts an hour earlier.  The same is so for half past two, which that
    clock skips: 21.5 hours are told. -/
theorem remaining_eq_elapsed_add_change_spring :
    let zone := Zone.seasonal .newYork
    let m : Moment := ⟨Moment.midnight ⟨2024, 3, 10⟩ + 19800000000, some .utc, false⟩
    let skipped : Moment := ⟨Moment.midnight ⟨2024, 3, 10⟩ + 9000000000, some zone, false⟩
    let n : Moment := ⟨Moment.midnight ⟨2024, 3, 11⟩, some zone, false⟩
    let tally : Tally := ⟨7, m, none⟩
    zone.WithinDay ∧ daily.next? zone m = .ok (some n) ∧
      daily.remaining? zone m = .ok (some 84600000000) ∧
      n.instant - m.instant = 81000000000 ∧
      (tally.dueByTime daily zone n = .ok true ∧
        ∀ t : Moment, t.IsReal zone → m.instant ≤ t.instant → t.instant ≤ n.instant →
          tally.dueByTime daily zone t = .ok (decide (n.instant ≤ t.instant))) ∧
      daily.next? zone skipped = .ok (some n) ∧
      daily.remaining? zone skipped = .ok (some 77400000000) ∧
      n.instant - skipped.instant = 73800000000 := by
  intro zone m skipped n tally
  have hvalues : (daily.next? zone m).toOption = some (some n) ∧ m.IsReal zone ∧
      (tally.dueByTime daily zone m).toOption = some false ∧
      (daily.next? zone skipped).toOption = some (some n) ∧
      n.offset?.getD 0 = -14400 ∧ m.offsetIn zone = -18000 ∧ skipped.offsetIn zone = -18000 ∧
      n.instant - m.instant = 81000000000 ∧ n.instant - skipped.instant = 73800000000 := by
    decide +kernel +revert
  obtain ⟨hnext, hreal, hdue, hnextSkipped, hn, hm, hskipped, hpassed, hpassedSkipped⟩ := hvalues
  have hnext := Except.eq_ok_of_toOption hnext
  have hdue := Except.eq_ok_of_toOption hdue
  have hnextSkipped := Except.eq_ok_of_toOption hnextSkipped
  obtain ⟨told, htold, hchange, -, -, htally⟩ :=
    remaining_eq_elapsed_add_change (show zone.WithinDay from trivial) hnext
  obtain ⟨toldSkipped, htoldSkipped, hchangeSkipped, -⟩ :=
    remaining_eq_elapsed_add_change (show zone.WithinDay from trivial) hnextSkipped
  rw [hpassed, hn, hm] at hchange
  rw [hpassedSkipped, hn, hskipped] at hchangeSkipped
  subst hchange hchangeSkipped
  exact ⟨trivial, hnext, htold, hpassed, htally hreal tally hdue, hnextSkipped, htoldSkipped,
    hpassedSkipped⟩

end Period

end SerialNumbers
