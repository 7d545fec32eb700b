/-
  SerialNumbers.Proofs.Time.Order

  When moments stand in one line.  Readings of one zone are compared as they
  stand, and others by their instants, so moments of several zones can follow
  each other in a circle; that takes an hour that a clock shows twice.  Main
  statement: moments that all lie outside such hours, and moments that are all
  on one clock, are compared like whole numbers (`Moment.Aligned.exists_rank`).
-/
import SerialNumbers.Proofs.Time.Epoch
import SerialNumbers.Proofs.Time.Midnight

namespace SerialNumbers.Time

/-! ## Changes of one region -/

/-- The year before a year starts at least 365 days earlier; before the first one none is
    counted. -/
theorem daysBeforeYear_pred (year : Nat) : daysBeforeYear year = daysBeforeYear (year - 1) ∨
    daysBeforeYear (year - 1) + 365 ≤ daysBeforeYear year := by
  by_cases hyear : year ≤ 1
  · left
    have hcases : year = 0 ∨ year = 1 := by omega
    rcases hcases with rfl | rfl <;> decide
  · right
    have hlength := yearLength_ge (year - 1)
    have hnext := daysBeforeYear_succ (show 1 ≤ year - 1 by omega)
    rw [Nat.sub_add_cancel (by omega)] at hnext
    omega

namespace Region

variable {region : Region} {year : Nat} {shift shift' : Shift}

/-- The offset to which the clocks are changed in the first half of a year. -/
def firstOffset : Region → Int
  | newYork => newYork.standard + 3600
  | berlin => berlin.standard + 3600
  | auckland => auckland.standard
  | saoPaulo => saoPaulo.standard

/-- The offset to which the clocks are changed in the second half of a year. -/
def secondOffset : Region → Int
  | newYork => newYork.standard
  | berlin => berlin.standard
  | auckland => auckland.standard + 3600
  | saoPaulo => saoPaulo.standard + 3600

/-- A change is in the first half of a year that starts at an instant, or in the second one. -/
def InHalf (region : Region) (shift : Shift) (start : Int) : Prop :=
  (shift.after = region.firstOffset ∧ start + 86400 * 30 < shift.instant ∧
    shift.instant < start + 86400 * 140) ∨
  (shift.after = region.secondOffset ∧ start + 86400 * 230 < shift.instant ∧
    shift.instant < start + 86400 * 340)

theorem inHalf_of_mem (h : shift ∈ region.shifts year) :
    InHalf region shift (86400 * daysBeforeYear year) := by
  unfold InHalf
  cases region with
  | newYork =>
    have hforward := nthSunday_bounds year 3 2
    have hback := nthSunday_bounds year 11 1
    rcases List.mem_cons.mp h with rfl | h
    · left
      unfold shiftAt daySeconds hours
      exact ⟨rfl, by dsimp only [standard, hours]; omega, by dsimp only [standard, hours]; omega⟩
    · rw [List.mem_singleton.mp h]
      right
      unfold shiftAt daySeconds hours
      exact ⟨rfl, by dsimp only [standard, hours]; omega,
        by dsimp only [standard, hours]; omega⟩
  | berlin =>
    have hforward := lastSunday_bounds year 3
    have hback := lastSunday_bounds year 10
    rcases List.mem_cons.mp h with rfl | h
    · left
      unfold daySeconds hours
      exact ⟨rfl, by dsimp only; omega, by dsimp only; omega⟩
    · rw [List.mem_singleton.mp h]
      right
      unfold daySeconds hours
      exact ⟨rfl, by dsimp only; omega, by dsimp only; omega⟩
  | auckland =>
    have hback := nthSunday_bounds year 4 1
    have hforward := lastSunday_bounds year 9
    rcases List.mem_cons.mp h with rfl | h
    · left
      unfold shiftAt daySeconds hours
      exact ⟨rfl, by dsimp only [standard, hours]; omega, by dsimp only [standard, hours]; omega⟩
    · rw [List.mem_singleton.mp h]
      right
      unfold shiftAt daySeconds hours
      exact ⟨rfl, by dsimp only [standard, hours]; omega,
        by dsimp only [standard, hours]; omega⟩
  | saoPaulo =>
    unfold shifts at h
    dsimp only at h
    split at h
    · rw [List.mem_singleton.mp h]
      exact .inr (by decide)
    · rcases List.mem_cons.mp h with rfl | h
      · exact .inl (by decide)
      · rw [List.mem_singleton.mp h]
        exact .inr (by decide)
    · rw [List.mem_singleton.mp h]
      exact .inl (by decide)
    · exact absurd h List.not_mem_nil

/-- Two changes of a year or the one before it are far apart, unless they go to the same offset. -/
theorem apart_of_after_ne (h : shift ∈ region.shifts (year - 1) ++ region.shifts year)
    (h' : shift' ∈ region.shifts (year - 1) ++ region.shifts year)
    (hafter : shift.after ≠ shift'.after) :
    shift.instant + 7200 < shift'.instant ∨ shift'.instant + 7200 < shift.instant := by
  have hyears := daysBeforeYear_pred year
  have hhalf {s : Shift} (hs : s ∈ region.shifts (year - 1) ++ region.shifts year) :
      ∃ days, (days = daysBeforeYear (year - 1) ∨ days = daysBeforeYear year) ∧
        InHalf region s (86400 * days) := by
    rcases List.mem_append.mp hs with hs | hs
    · exact ⟨_, .inl rfl, inHalf_of_mem hs⟩
    · exact ⟨_, .inr rfl, inHalf_of_mem hs⟩
  obtain ⟨days, hdays, hfirst⟩ := hhalf h
  obtain ⟨days', hdays', hsecond⟩ := hhalf h'
  have hfar : days = days' ∨ days + 365 ≤ days' ∨ days' + 365 ≤ days := by omega
  -- One is in the first half of a year and the other in the second half of a year.
  rcases hfirst with ⟨hsame, hlow, hhigh⟩ | ⟨hsame, hlow, hhigh⟩ <;>
    rcases hsecond with ⟨hsame', hlow', hhigh'⟩ | ⟨hsame', hlow', hhigh'⟩
  · exact absurd (hsame.trans hsame'.symm) hafter
  · omega
  · omega
  · exact absurd (hsame.trans hsame'.symm) hafter

end Region

/-! ## Readings that are shown once -/

namespace Zone

variable {region : Region}

/-- In the first days of the calendar it is winter on every clock. -/
theorem offsetOf_first_days (late : Bool) {x : Int} (hx : x < 86400 * 20) :
    (seasonal region).offsetOf late x = region.standard := by
  have hyear : yearAt x = 1 := by
    obtain ⟨hyear, hlow, -⟩ := Date.yearOf_bounds (Nat.le_add_left 1 (x / 86400).toNat)
    have hlow : daysBeforeYear (yearAt x) < (x / 86400).toNat + 1 := hlow
    have hge : 1 ≤ yearAt x := hyear
    apply Nat.le_antisymm _ hge
    apply Nat.le_of_not_lt
    intro hlater
    have hdays : daysBeforeYear 2 ≤ daysBeforeYear (yearAt x) := daysBeforeYear_le hlater
    have htwo : daysBeforeYear 2 = 365 := by decide
    omega
  have hstandard := region.standard_bounds
  show offsetAfter region
    ((region.shifts (yearAt x - 1) ++ region.shifts (yearAt x)).filter _) = _
  rw [hyear, List.filter_eq_nil_iff.mpr]
  · rfl
  · -- Neither the first year nor the one before it has changes so early.
    intro shift hshift
    obtain ⟨hmin, hmax⟩ : min shift.before shift.after = region.standard ∧
        max shift.before shift.after = region.standard + 3600 := by
      rcases List.mem_append.mp hshift with hshift | hshift <;>
        exact Region.offsets_of_mem hshift
    have hinstant (h : Region.InHalf region shift 0) : 86400 * 30 < shift.instant := by
      unfold Region.InHalf at h
      omega
    have hinstant : 86400 * 30 < shift.instant := by
      rcases List.mem_append.mp hshift with hshift | hshift
      · exact hinstant (Region.inHalf_of_mem hshift)
      · exact hinstant (Region.inHalf_of_mem hshift)
    rw [hmin, hmax, decide_eq_true_eq]
    split <;> omega

/-- A reading of the later pass is taken at the offset of the instant at which the clock of the
    winter shows it. -/
theorem offsetOf_late_eq_offsetAt {reading : Int} (h : 86400 ≤ reading) :
    (seasonal region).offsetOf true reading =
      (seasonal region).offsetAt (reading - region.standard) := by
  obtain ⟨hyear, hlow, hhigh⟩ := @yearAt_bounds reading (by omega)
  have hstandard := region.standard_bounds
  rw [offsetAt_eq_near (by omega) hyear (by omega) (by omega)]
  show offsetAfter region ((region.shifts (yearAt reading - 1) ++
    region.shifts (yearAt reading)).filter _) = _
  congr 1
  apply List.filter_congr
  intro shift hshift
  obtain ⟨year, hshift⟩ := @mem_shiftsNear region reading shift hshift
  rw [decide_eq_decide, if_pos rfl, (Region.offsets_of_mem hshift).1]
  omega

/-- In the hour after a reading that the clock shows once it is not put forward. -/
theorem offsetOf_le_of_once {x y : Int} (hxy : x ≤ y) (hnear : y ≤ x + 3600)
    (hx : (seasonal region).offsetOf true x = (seasonal region).offsetOf false x) :
    (seasonal region).offsetOf false y ≤ (seasonal region).offsetOf false x := by
  by_cases hearly : x < 86400 * 10
  · have hx' := @offsetOf_first_days region false x (by omega)
    have hy' := @offsetOf_first_days region false y (by omega)
    omega
  · rw [offsetOf_late_eq_offsetAt (by omega), offsetOf_eq_offsetAt (by omega)] at hx
    rw [offsetOf_eq_offsetAt (by omega), offsetOf_eq_offsetAt (by omega)]
    have hstandard := region.standard_bounds
    -- The four instants are told from the changes of one year and the one before.
    obtain ⟨hyear, hlow, hhigh⟩ := @yearAt_bounds (x - (region.standard + 3600)) (by omega)
    have hoffset {z : Int} (hle : x - (region.standard + 3600) ≤ z)
        (hge : z ≤ y - region.standard) : (seasonal region).offsetAt z = offsetAfter region
          ((region.shifts (yearAt (x - (region.standard + 3600)) - 1) ++
            region.shifts (yearAt (x - (region.standard + 3600)))).filter (·.instant ≤ z)) :=
      offsetAt_eq_near (by omega) hyear (by omega) (by omega)
    apply Int.le_of_not_gt
    intro hlt
    -- The clock of the summer has been put forward, and that of the winter not yet.
    have hforward := Int.ne_of_lt hlt
    have hback : (seasonal region).offsetAt (y - (region.standard + 3600)) ≠
        (seasonal region).offsetAt (x - region.standard) := by
      rw [hx]
      exact Int.ne_of_gt hlt
    rw [hoffset (by omega) (by omega), hoffset (by omega) (by omega)] at hforward hback
    obtain ⟨shift, hmem, hgt, hle, hafter⟩ := exists_shift (by omega) hforward
    obtain ⟨shift', hmem', hgt', hle', hafter'⟩ := exists_shift (by omega) hback
    have hapart := Region.apart_of_after_ne hmem hmem' (by rw [hafter, hafter']; exact hback)
    omega

end Zone

namespace Moment

/-- The clock shows the reading once: both passes over it would be at the same offset. -/
structure IsOnce (m : Moment) : Prop where
  known : m.zone.isSome = true
  offset : { m with late := !m.late }.offset? = m.offset?

instance (m : Moment) : Decidable m.IsOnce :=
  decidable_of_iff (m.zone.isSome = true ∧ { m with late := !m.late }.offset? = m.offset?)
    ⟨fun h => ⟨h.1, h.2⟩, fun h => ⟨h.known, h.offset⟩⟩

/-- Whichever pass a reading is marked with, it is at the offset of the earlier one. -/
theorem IsOnce.offsetOf {m : Moment} (h : m.IsOnce) {zone : Zone} (hzone : m.zone = some zone)
    (late : Bool) : zone.offsetOf late m.readingSeconds = zone.offsetOf false m.readingSeconds := by
  have hoffset := h.offset
  unfold offset? at hoffset
  rw [hzone] at hoffset
  have hsame : zone.offsetOf (!m.late) m.readingSeconds = zone.offsetOf m.late m.readingSeconds :=
    Option.some.inj hoffset
  cases late with
  | false => rfl
  | true =>
    cases hlate : m.late with
    | false => rw [hlate] at hsame; exact hsame
    | true => rw [hlate] at hsame; exact hsame.symm

theorem IsOnce.instant {m : Moment} (h : m.IsOnce) {zone : Zone} (hzone : m.zone = some zone) :
    m.instant = m.reading - zone.offsetOf false m.readingSeconds * microsPerSecond := by
  rw [← h.offsetOf hzone m.late]
  unfold Moment.instant offset?
  rw [hzone]
  rfl

/-- Readings that a clock shows once are in the order of their instants. -/
theorem IsOnce.instant_lt {a b : Moment} (ha : a.IsOnce) (hb : b.IsOnce) (hzone : a.zone = b.zone)
    (h : a.reading < b.reading) : a.instant < b.instant := by
  obtain ⟨zone, ha'⟩ := Option.isSome_iff_exists.mp ha.known
  rw [ha.instant ha', hb.instant (hzone ▸ ha')]
  cases zone with
  | fixed offset => exact Int.sub_lt_sub_right h _
  | seasonal region =>
    have hle : a.readingSeconds ≤ b.readingSeconds :=
      Int.ediv_le_ediv (by decide : 0 < microsPerSecond) (Int.le_of_lt h)
    have hmicros : microsPerSecond = 1000000 := rfl
    rw [hmicros]
    by_cases hnear : b.readingSeconds ≤ a.readingSeconds + 3600
    · have hoffset := Zone.offsetOf_le_of_once hle hnear (ha.offsetOf ha' true)
      omega
    · -- An hour makes up for every change of the offset.
      unfold readingSeconds at hnear
      rw [hmicros] at hnear
      rcases Zone.offsetOf_cases region false a.readingSeconds with hx | hx <;>
        rcases Zone.offsetOf_cases region false b.readingSeconds with hy | hy <;>
          rw [hx, hy] <;> omega

theorem IsOnce.compare_instant {a b : Moment} (ha : a.IsOnce) (hb : b.IsOnce)
    (hzone : a.zone = b.zone) : compare a.reading b.reading = compare a.instant b.instant := by
  obtain ⟨zone, ha'⟩ := Option.isSome_iff_exists.mp ha.known
  rcases Int.lt_trichotomy a.reading b.reading with hlt | heq | hgt
  · rw [Int.compare_eq_lt.mpr hlt, Int.compare_eq_lt.mpr (ha.instant_lt hb hzone hlt)]
  · have hinstant : a.instant = b.instant := by
      rw [ha.instant ha', hb.instant (hzone ▸ ha')]
      unfold readingSeconds
      rw [heq]
    rw [Int.compare_eq_eq.mpr heq, Int.compare_eq_eq.mpr hinstant]
  · rw [Int.compare_eq_gt.mpr hgt, Int.compare_eq_gt.mpr (hb.instant_lt ha hzone.symm hgt)]

/-! ## Moments in one line -/

/-- Moments that can be lined up: each of them is shown once by its clock, or all of them are on
    one clock. -/
def Aligned (moments : List Moment) : Prop :=
  (∀ m ∈ moments, m.IsOnce) ∨ ∃ zone, ∀ m ∈ moments, m.zone = zone

/-- Moments that can be lined up are compared like whole numbers. -/
theorem Aligned.exists_rank {moments : List Moment} (h : Aligned moments) :
    ∃ rank : Moment → Int, ∀ a ∈ moments, ∀ b ∈ moments,
      a.order? b = some (compare (rank a) (rank b)) := by
  rcases h with honce | ⟨zone, hzone⟩
  · refine ⟨instant, ?_⟩
    intro a ha b hb
    have hknown : a.comparable b = true := by
      unfold comparable
      rw [(honce a ha).known, (honce b hb).known]
      rfl
    unfold order?
    rw [hknown]
    by_cases hzone : a.zone = b.zone
    · simp [hzone, (honce a ha).compare_instant (honce b hb) hzone]
    · simp [hzone]
  · -- On one clock it is the readings that are compared.
    refine ⟨reading, ?_⟩
    intro a ha b hb
    unfold order? comparable
    rw [hzone a ha, hzone b hb]
    simp

/-- The other way round two moments are in the opposite order. -/
theorem order?_swap (a b : Moment) : b.order? a = (a.order? b).map Ordering.swap := by
  unfold order? comparable
  by_cases hknown : a.zone.isSome = b.zone.isSome
  · by_cases hzone : a.zone = b.zone
    · simp [hzone, Int.compare_swap]
    · simp [hknown, hzone, Ne.symm hzone, Int.compare_swap]
  · simp [hknown, Ne.symm hknown]

end Moment

end SerialNumbers.Time
