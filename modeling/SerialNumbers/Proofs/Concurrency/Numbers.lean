/-
  SerialNumbers.Proofs.Concurrency.Numbers

  The numbers that many clients take from one sequence with periods.  A client
  takes the time before it waits for the lock, so times need not follow each
  other in the order in which the lock was had, and the counter starts again
  whenever the period is another one than before, be it a later or an earlier
  one.  So what is logged is a series with returns, and its numbers are all
  different just when no period is come back to (`World.numbers_distinct`).
-/
import SerialNumbers.Proofs.Concurrency.Serial
import SerialNumbers.Proofs.Pattern.Series

namespace SerialNumbers

open Pattern Time

/-- The numbers of a sequence that the log holds. -/
def Store.issuedOf (s : Store) (id : Int) : List LogEntry :=
  (s.entriesOf id).filter (·.action == .generated)

/-- The number that a commit has issued, as it is logged. -/
def Commit.issued (c : Commit) : List LogEntry :=
  (c.done.entries.map (·.plain)).filter (·.action == .generated)

/-! ## One number -/

/-- All of the configuration that a number depends on. -/
structure Sequence.SameRules (row row' : Sequence) : Prop where
  pattern : row'.pattern = row.pattern
  period : row'.period = row.period
  limit : row'.limit = row.limit
  padding : row'.padding = row.padding
  step : row'.step = row.step

namespace Inside.Issues

variable {i : Issuer} {c : Context} {stamp : Moment} {opened : Sequence} {reason : Option String}
  {number : String} {done : Edited}

theorem sameRules (h : Issues i c stamp opened reason number done) : opened.SameRules done.row := by
  rw [h.row]
  cases reason <;> exact ⟨rfl, rfl, rfl, rfl, rfl⟩

/-- One entry is left that holds the number. -/
theorem issued (h : Issues i c stamp opened reason number done) :
    ∃ e : LogEntry, (done.entries.map (·.plain)).filter (·.action == .generated) = [e] ∧
      e.number = number ∧ e.counter = done.row.current ∧ e.createdAt = stamp := by
  obtain ⟨e, he, hentries⟩ := h.logged
  have hgenerated : (e.plain.action == Action.generated) = true := he.action_beq .generated
  refine ⟨e.plain, ?_, he.number, he.counter, he.createdAt⟩
  cases reason with
  | none =>
    rw [show done.entries = [e] from hentries, List.map_singleton, List.filter_cons,
      if_pos hgenerated]
    rfl
  | some text =>
    obtain ⟨e₀, he₀, hboth⟩ := hentries
    have hreset : (e₀.plain.action == Action.generated) = false := he₀.action_beq .generated
    rw [hboth, List.map_cons, List.map_singleton, List.filter_cons, List.filter_cons, hreset,
      if_pos hgenerated]
    rfl

/-- The number is spelled from the date on which the client began and the new counter value. -/
theorem spelled (h : Issues i c stamp opened reason number done) (hdated : IsDated opened.pattern) :
    (stamp.dateIn i.zone).Fits ∧ number.toList =
      spelling opened.pattern opened.padding (stamp.dateIn i.zone) done.row.current := by
  obtain ⟨t, ht, hmade⟩ := h.made
  rw [← h.sameRules.padding]
  exact Issuer.render_eq_ok hdated (Issuer.checkedTemplate_eq_ok ht) hmade

/-- The counter is at the next place of the visit, or at the first place of another one, and
    from now on the period is that of the date on which the client began. -/
theorem counted (h : Issues i c stamp opened reason number done)
    (hperiod : opened.period.isTimeBased = true) (hlimit : opened.limit = none) {place : Nat}
    (hplace : opened.current = place * opened.step) :
    let same := opened.period.first (stamp.dateIn i.zone) =
      opened.period.first (opened.tally.reference.dateIn i.zone)
    done.row.current = ((if same then place + 1 else 1 : Nat) : Int) * opened.step ∧
      opened.period.first (done.row.tally.reference.dateIn i.zone) =
        opened.period.first (stamp.dateIn i.zone) := by
  intro same
  have hreason : reason = none ↔ same := Sequence.resetReason?_eq_ok hperiod hlimit h.due
  rw [h.row]
  cases reason with
  | none =>
    have hsame : same := hreason.mp rfl
    rw [if_pos hsame]
    refine ⟨?_, ?_⟩
    · show opened.current + opened.step = _
      rw [hplace, Int.natCast_succ, Int.add_mul, Int.one_mul]
    · -- Without a reset ever the reference is now the date itself, else it is as before.
      show opened.period.first ((opened.lastResetAt.getD stamp).dateIn i.zone) = _
      cases hlast : opened.lastResetAt with
      | none => rfl
      | some last =>
        have hreference : opened.tally.reference = last := by
          unfold Sequence.tally Tally.reference
          rw [hlast]
          rfl
        rw [← hreference]
        exact hsame.symm
  | some text =>
    have hother : ¬ same := fun hsame => nomatch hreason.mpr hsame
    rw [if_neg hother]
    refine ⟨?_, rfl⟩
    show 0 + opened.step = _
    rw [Int.zero_add, Int.natCast_one, Int.one_mul]

end Inside.Issues

/-! ## All numbers -/

/-- The commit has issued a number, by the clock of a zone. -/
def Commit.Issues (zone : Zone) (c : Commit) : Prop :=
  ∃ i context stamp reason number, i.zone = zone ∧
    Inside.Issues i context stamp c.opened reason number c.done

/-- What commits that follow each other have issued: every number is spelled by the pattern
    of the row, and their counters are at the places of the dates in their visits. -/
theorem Chained.series {zone : Zone} {commits : List Commit} {row : Sequence} {last : Option Sequence}
    (h : Chained (some row) commits last) (hissues : ∀ c ∈ commits, c.Issues zone)
    (hperiod : row.period.isTimeBased = true) (hlimit : row.limit = none)
    (hdated : IsDated row.pattern) {place : Nat} (hplace : row.current = place * row.step) :
    (∀ e ∈ commits.flatMap Commit.issued, (e.createdAt.dateIn zone).Fits ∧ e.number.toList =
      spelling row.pattern row.padding (e.createdAt.dateIn zone) e.counter) ∧
    (commits.flatMap Commit.issued).map (·.counter) =
      (row.period.placesFrom (row.tally.reference.dateIn zone) place
        ((commits.flatMap Commit.issued).map (·.createdAt.dateIn zone))).map
          fun n : Nat => n * row.step := by
  induction commits generalizing row place with
  | nil => exact ⟨fun e he => absurd he List.not_mem_nil, rfl⟩
  | cons c rest ih =>
    obtain ⟨hopened, hrest⟩ := h
    have hopened : row = c.opened := Option.some.inj hopened
    subst hopened
    obtain ⟨i, context, stamp, reason, number, rfl, hissue⟩ := hissues c List.mem_cons_self
    obtain ⟨e, hentries, hnumber, hcounter, hstamp⟩ := hissue.issued
    obtain ⟨hfits, hspelled⟩ := hissue.spelled hdated
    obtain ⟨hcurrent, hreference⟩ := hissue.counted hperiod hlimit hplace
    -- The next commit starts from the new row, which has the same rules, and from this date.
    have hrules := hissue.sameRules
    have hnext := ih hrest (fun d hd => hissues d (List.mem_cons_of_mem c hd))
      (by rw [hrules.period]; exact hperiod) (hrules.limit.trans hlimit)
      (by rw [hrules.pattern]; exact hdated) (by rw [hrules.step]; exact hcurrent)
    rw [hrules.pattern, hrules.padding, hrules.period, hrules.step,
      Period.placesFrom_congr _ hreference] at hnext
    obtain ⟨hspelledRest, hcountedRest⟩ := hnext
    have hfirst : (c :: rest).flatMap Commit.issued = e :: rest.flatMap Commit.issued := by
      rw [List.flatMap_cons]
      show (c.done.entries.map _).filter _ ++ _ = _
      rw [hentries]
      rfl
    rw [hfirst]
    refine ⟨?_, ?_⟩
    · intro e' he'
      rcases List.mem_cons.mp he' with rfl | he'
      · rw [hstamp, hnumber, hcounter]
        exact ⟨hfits, hspelled⟩
      · exact hspelledRest e' he'
    · rw [List.map_cons, List.map_cons, hcountedRest, hstamp, hcounter, hcurrent]
      rfl

namespace World

/-- The log tells a beginning of what the serial store has heard of a sequence. -/
theorem Serial.story_prefix {s₀ : Store} {w : World} (h : w.Serial s₀) {key : Key} {row : Sequence}
    {id : Int} (hrow : w.store.row? key = some row) (hid : row.id = some id) :
    story id w.store.entries <+: story id (s₀.serial w.commits).entries := by
  by_cases hwriting : ∃ client rest, (w.phase client).rest? = some (key, rest)
  · obtain ⟨client, rest, hrest⟩ := hwriting
    rw [← h.behind hrest hrow hid]
    exact List.prefix_append _ _
  · have hlevel := h.level (fun client rest hrest => hwriting ⟨client, rest, hrest⟩) hrow hid
    exact ⟨[], by rw [List.append_nil, hlevel]⟩

/-- A row that was there at first is still there. -/
theorem Serial.sameIdentity {s₀ : Store} {w : World} (h : w.Serial s₀) {key : Key} {row : Sequence}
    (hrow : s₀.row? key = some row) : ∃ r, w.store.row? key = some r ∧ row.SameIdentity r := by
  have hsame : ∀ c ∈ w.commitsAt key, c.opened.SameIdentity c.done.row := by
    intro c hc
    obtain ⟨log, hwork⟩ := h.worked c (List.mem_filter.mp hc).1
    exact (c.task.edit.makes (c.task.prepared c.clock) hwork).sameIdentity
  have hchained := h.chained key
  rw [hrow] at hchained
  clear hrow
  generalize w.commitsAt key = commits at hsame hchained
  induction commits generalizing row with
  | nil => exact ⟨row, hchained.symm, row.sameIdentity_refl⟩
  | cons c rest ih =>
    obtain ⟨hopened, hrest⟩ := hchained
    cases hopened
    obtain ⟨r, hr, hid⟩ := ih (fun d hd => hsame d (List.mem_cons_of_mem c hd)) hrest
    exact ⟨r, hr, (hsame c List.mem_cons_self).trans hid⟩

/-- What is logged of a sequence that began with a new row, and at which nothing was done but
    issuing numbers by the clock of a zone, is a series. -/
theorem Serial.series {s₀ : Store} {w : World} (h : w.Serial s₀) {key : Key} {row : Sequence}
    {id : Int} {zone : Zone} (hrow : s₀.row? key = some row) (hid : row.id = some id)
    (hfresh : row.Fresh) (hnone : s₀.entriesOf id = []) (hperiod : row.period.isTimeBased = true)
    (hlimit : row.limit = none) (hdated : IsDated row.pattern)
    (hissues : ∀ c ∈ w.commitsAt key, c.task.edit.isIssue = true ∧ c.task.issuer.zone = zone) :
    Series row zone (w.store.issuedOf id) := by
  obtain ⟨r, hr, hsame⟩ := h.sameIdentity hrow
  have hrid : r.id = some id := hsame.id.trans hid
  have hissued : ∀ c ∈ w.commitsAt key, c.Issues zone := by
    intro c hc
    obtain ⟨hissue, hzone⟩ := hissues c hc
    obtain ⟨log, hwork⟩ := h.worked c (List.mem_filter.mp hc).1
    obtain ⟨context, stamp, reason, number, hmade⟩ :=
      (c.task.edit.makes (c.task.prepared c.clock) hwork).issues hissue
    exact ⟨c.task.issuer, context, stamp, reason, number, hzone, hmade⟩
  have hchained := h.chained key
  rw [hrow] at hchained
  have hplace : row.current = (0 : Nat) * row.step := by
    rw [hfresh.current, Int.natCast_zero, Int.zero_mul]
  have hseries := hchained.series hissued hperiod hlimit hdated hplace
  rw [Period.placesFrom_zero] at hseries
  -- The log tells a beginning of what the serial store has heard, which is what was issued.
  have hlogged : (w.store.issuedOf id).map (·.plain) <+:
      (w.commitsAt key).flatMap Commit.issued := by
    have hstory : story id (s₀.serial w.commits).entries =
        (w.commitsAt key).flatMap (·.done.entries.map (·.plain)) := by
      have hempty : story id s₀.entries = [] := congrArg (List.map LogEntry.plain) hnone
      rw [h.told hr hrid, hempty, List.nil_append]
    have hprefix := (h.story_prefix hr hrid).filter (·.action == .generated)
    rw [hstory, List.filter_flatMap] at hprefix
    unfold story at hprefix
    rw [List.filter_map] at hprefix
    exact hprefix
  obtain ⟨more, hmore⟩ := hlogged
  rw [← hmore] at hseries
  -- Without their numbers entries are in the series just as well.
  have hall : Series row zone ((w.store.issuedOf id).map (·.plain) ++ more) :=
    ⟨hseries.1, hseries.2⟩
  have hplain := hall.of_prefix
  refine ⟨?_, ?_⟩
  · intro e he
    exact hplain.spelled e.plain (List.mem_map_of_mem he)
  · have hcounted := hplain.counted
    rw [List.map_map, List.map_map] at hcounted
    exact hcounted

/-- Many clients that take numbers from one new sequence with periods and no limit, in
    whatever order their steps come to stand.  The numbers in the log, in the order in which
    the clients had the lock, are all different just when no two show the same date in the
    same place of a visit to a period.  They are if no period is come back to, so always when
    the dates on which the clients began are in order; and if the pattern shows nothing but
    the period, they are not if one is. -/
theorem numbers_distinct {s₀ : Store} (hs₀ : s₀.Reachable) {w : World} {acts : List Act}
    (hrun : (start s₀).run acts = some w) (hacts : ∀ a ∈ acts, a.isEdit = true) {key : Key}
    {row : Sequence} {id : Int} {zone : Zone} (hrow : s₀.row? key = some row)
    (hid : row.id = some id) (hfresh : row.Fresh) (hnone : s₀.entriesOf id = [])
    (hperiod : row.period.isTimeBased = true) (hlimit : row.limit = none)
    (hdated : IsDated row.pattern)
    (hissues : ∀ c ∈ w.commitsAt key, c.task.edit.isIssue = true ∧ c.task.issuer.zone = zone) :
    Distinct row ((w.store.issuedOf id).map (·.createdAt.dateIn zone))
      ((w.store.issuedOf id).map (·.number)) := by
  have hserial := Serial.run hs₀ hrun hacts
  have hseries := hserial.series hrow hid hfresh hnone hperiod hlimit hdated hissues
  exact hseries.distinct hdated hfresh.step hperiod

/-- Three clients at a sequence with years.  The third begins in the old year and has the lock
    after the second, which begins in the new one: the old year is come back to, and the
    number of the first is issued again. -/
theorem numbers_distinct_late :
    let key : Key := ("acme", "invoices")
    let time (seconds : Int) : Moment :=
      ⟨Moment.midnight ⟨2024, 1, 1⟩ + 1000000 * seconds, none, false⟩
    let row : Sequence := ⟨none, "acme", "invoices", "INV-\x7bYEAR\x7d-\x7bCOUNTER:5\x7d", .yearly,
      none, 5, 1, 0, none, 0, [], time (-60), time (-60)⟩
    let i : Issuer := ⟨.empty, .utc⟩
    let s₀ := ((Operation.insert row).run i (.new .memory 5000 (time (-60)))).2
    let stored := Operation.stored (.new .memory 5000 (time (-60))) row
    let call (client : Nat) : Act := .call client i (.generate stored .empty .none none)
    let pass (client entries : Nat) : List Act := [.lookUp client, .acquire client, .read client,
      .work client, .commit client] ++ .replicate entries (.write client) ++ [.release client]
    let acts : List Act := [.tick (time (-2)), call 0] ++ pass 0 1 ++
      [.tick (time (-1)), call 2, .tick (time 1), call 1] ++ pass 1 2 ++ pass 2 2
    s₀.Reachable ∧ (∀ a ∈ acts, a.isEdit = true) ∧ s₀.row? key = some stored ∧
      stored.Fresh ∧ s₀.entriesOf 1 = [] ∧ IsDated stored.pattern ∧
      ∃ w, (start s₀).run acts = some w ∧
        (∀ c ∈ w.commitsAt key, c.task.edit.isIssue = true ∧ c.task.issuer.zone = .utc) ∧
        (w.store.issuedOf 1).map (·.number) =
          ["INV-2023-00001", "INV-2024-00001", "INV-2023-00001"] ∧
        ¬ stored.period.Steady ((w.store.issuedOf 1).map (·.createdAt.dateIn .utc)) := by
  intro key time row i s₀ stored call pass acts
  have hs₀ : s₀.Reachable := .run i (.insert row) (.new 5000 (time (-60)))
  have hacts : ∀ a ∈ acts, a.isEdit = true := by
    intro a ha
    exact List.all_eq_true.mp (rfl : acts.all Act.isEdit = true) a ha
  have hrow : s₀.row? key = some stored := rfl
  have hid : stored.id = some 1 := rfl
  have hfresh : stored.Fresh := ⟨rfl, rfl, rfl, Int.le_refl 1⟩
  have hdated : IsDated stored.pattern := by
    refine ⟨by decide +kernel, ?_, by decide +kernel⟩
    have hall : (pieces stored.pattern.toList).all Piece.isDated = true := by decide +kernel
    exact List.all_eq_true.mp hall
  have hran : ((start s₀).run acts).map (fun w =>
      ((w.commitsAt key).all fun c => c.task.edit.isIssue && c.task.issuer.zone == .utc,
        (w.store.issuedOf 1).map (·.number))) =
      some (true, ["INV-2023-00001", "INV-2024-00001", "INV-2023-00001"]) := by decide +kernel
  obtain ⟨w, hrun, hw⟩ := Option.map_eq_some_iff.mp hran
  obtain ⟨hall, hnumbers⟩ := (Prod.mk.injEq ..).mp hw
  have hissues : ∀ c ∈ w.commitsAt key,
      c.task.edit.isIssue = true ∧ c.task.issuer.zone = .utc := by
    intro c hc
    obtain ⟨hissue, hzone⟩ := Bool.and_eq_true_iff.mp (List.all_eq_true.mp hall c hc)
    exact ⟨hissue, eq_of_beq hzone⟩
  have hdistinct := numbers_distinct hs₀ hrun hacts hrow hid hfresh rfl rfl rfl hdated hissues
  -- The pattern shows the year alone, so a number that comes twice tells of a return.
  have hfields : fields stored.pattern = stored.period.fields := by decide +kernel
  refine ⟨hs₀, hacts, hrow, hfresh, rfl, hdated, w, hrun, hissues, hnumbers, ?_⟩
  intro hsteady
  have hnodup := (hdistinct.iff_steady fun f => by rw [hfields]).mpr hsteady
  rw [hnumbers] at hnodup
  exact absurd hnodup (by decide)

end World

end SerialNumbers
