/-
  SerialNumbers.Proofs.Reconfiguration

  Changes of configuration and the reset that comes next.  A change leaves the
  counter and the last reset of a row as they are, but it is the last change of
  the row, and before the first reset the period of a row is told against its
  last change.  So a change can hold a reset back.  Main statement: what the
  next number is with the change and without it, and exactly when the two agree
  (`Issuer.generate_after_update`).
-/
import SerialNumbers.Proofs.Numbering.Periodic
import SerialNumbers.Proofs.Override

namespace SerialNumbers

open Time

/-! ## When a reset is due -/

/-- A reset is due when the period of the reference has ended, or the limit is reached. -/
theorem Sequence.resetDue_eq_ok {s : Sequence} {zone : Zone} {now : Moment} {due : Bool}
    (h : s.resetDue zone now = .ok due) :
    due = ((s.period.isTimeBased && !s.period.together zone s.tally.reference now) ||
      s.tally.dueByCount s.limit) := by
  obtain ⟨byTime, htime, h⟩ := Except.bind_eq_ok.mp h
  cases h
  unfold Tally.dueByTime at htime
  cases hperiod : s.period.isTimeBased with
  | false =>
    rw [hperiod] at htime
    cases htime
    rfl
  | true =>
    rw [hperiod] at htime
    obtain ⟨same, hsame, htime⟩ := Except.bind_eq_ok.mp htime
    cases htime
    have htogether : s.period.together zone s.tally.reference now = same := by
      rw [Bool.eq_iff_iff, Period.together_iff, Period.sameSpan_eq_ok hperiod hsame]
    rw [htogether]
    rfl

namespace Sequence

variable {s s' : Sequence} {zone : Zone} {now : Moment} {due due' : Bool}

/-- Two rows with the same rules of counting, the same counter and the same last reset. -/
structure SameStanding (s s' : Sequence) : Prop where
  period : s'.period = s.period
  limit : s'.limit = s.limit
  step : s'.step = s.step
  current : s'.current = s.current
  lastResetAt : s'.lastResetAt = s.lastResetAt

theorem SameStanding.nextValue (h : s.SameStanding s') : s'.nextValue = s.nextValue := by
  unfold Sequence.nextValue
  rw [h.current, h.step]

/-- Before the first reset the period is told against the last change. -/
theorem reference_of_never (h : s.lastResetAt = none) : s.tally.reference = s.updatedAt := by
  rw [Tally.reference, tally, h, Option.getD_none]

/-- Whether a reset is due on one of two such rows and not on the other can differ only before the
    first reset, and only while the limit is not reached. -/
theorem SameStanding.due_iff (hsame : s.SameStanding s') (h : s.resetDue zone now = .ok due)
    (h' : s'.resetDue zone now = .ok due') :
    due = due' ↔ (s.period.isTimeBased = true → s.lastResetAt = none →
      s.tally.dueByCount s.limit = false →
        s.period.together zone s.updatedAt now = s.period.together zone s'.updatedAt now) := by
  have hcount : s'.tally.dueByCount s.limit = s.tally.dueByCount s.limit := by
    unfold Tally.dueByCount tally
    rw [hsame.current]
  rw [resetDue_eq_ok h, resetDue_eq_ok h', hsame.period, hsame.limit, hcount]
  cases hlast : s.lastResetAt with
  | some last =>
    have hreference : s'.tally.reference = s.tally.reference := by
      rw [Tally.reference, Tally.reference, tally, tally, hsame.lastResetAt, hlast,
        Option.getD_some, Option.getD_some]
    simp [hreference]
  | none =>
    rw [reference_of_never hlast, reference_of_never (hsame.lastResetAt.trans hlast)]
    -- What is left is about four tests that are true or false.
    generalize s.period.isTimeBased = timed
    generalize s.tally.dueByCount s.limit = full
    generalize s.period.together zone s.updatedAt now = same
    generalize s.period.together zone s'.updatedAt now = same'
    cases timed <;> cases full <;> simp

/-- As long as times do not go back, the row that was changed later is not due alone. -/
theorem SameStanding.due_of_later (hsame : s.SameStanding s') (h : s.resetDue zone now = .ok due)
    (h' : s'.resetDue zone now = .ok due')
    (hshown : s.period.isTimeBased = true → now.IsShown zone ∧ s.tally.reference.IsShown zone)
    (hshown' : s'.period.isTimeBased = true → now.IsShown zone ∧ s'.tally.reference.IsShown zone)
    (hreal : s.updatedAt.IsReal zone) (hreal' : s'.updatedAt.IsReal zone) (hnow : now.IsReal zone)
    (hchanged : s.updatedAt.instant ≤ s'.updatedAt.instant)
    (hissued : s'.updatedAt.instant ≤ now.instant) (hdue' : due' = true) : due = true := by
  by_contra hdue
  have hdiffer : due ≠ due' := fun heq => hdue (heq.trans hdue')
  simp only [ne_eq, hsame.due_iff h h', Classical.not_imp] at hdiffer
  obtain ⟨htimed, hlast, hfull, hne⟩ := hdiffer
  -- So the period is told against the two changes, and the earlier one lies in it.
  have htogether : s.period.together zone s.updatedAt now = true := by
    have hearly := resetDue_eq_ok h
    rw [Bool.eq_false_iff.mpr hdue, htimed, hfull, reference_of_never hlast] at hearly
    simpa using hearly
  obtain ⟨hlater, hfirst⟩ := hshown htimed
  obtain ⟨-, hsecond⟩ := hshown' (hsame.period.symm ▸ htimed)
  rw [reference_of_never hlast] at hfirst
  rw [reference_of_never (hsame.lastResetAt.trans hlast)] at hsecond
  have hbetween := Period.together_of_between
    (hfirst.dayNumber_le hsecond hreal hreal' hchanged)
    (hsecond.dayNumber_le hlater hreal' hnow hissued) htogether
  exact hne (htogether.trans hbetween.symm)

end Sequence

/-! ## Changing and then issuing -/

/-- A change of configuration that succeeds has changed the row that is there. -/
theorem Store.update_cases {s : Store} {key : Key} {expected : Option Int}
    {changes : List (String × Value)} {updated : Sequence}
    (hupdate : (Store.update key expected changes s).1 = .ok updated) :
    ∃ row, s.row? key = some row ∧ row.changed changes s.clock = .ok updated ∧
      s.Settled row.key ⟨updated, [], .row updated⟩ (Store.update key expected changes s).2 := by
  have hrun (i : Issuer) : (Edit.update key expected changes).run i s =
      (.ok (.row updated), (Store.update key expected changes s).2) :=
    StoreM.map_of_ok hupdate
  have i : Issuer := ⟨.empty, .utc⟩
  rcases (Edit.update key expected changes).run_cases i s with
    ⟨failure, herr, -⟩ | ⟨work, row, done, hprepare, hrow, hwork, hanswer, hsettled⟩
  · rw [hrun] at herr
    cases herr
  · rw [← Except.ok.inj hprepare] at hwork
    obtain ⟨-, hchanged, hdone⟩ := Edit.updateWork_eq_ok hwork
    rw [hrun, hdone] at hanswer
    have hupdated : done.row = updated := (Answer.row.inj (Except.ok.inj hanswer)).symm
    rw [hupdated] at hchanged hdone
    rw [hrun, hdone] at hsettled
    exact ⟨row, hrow, hchanged, hsettled⟩

namespace Issuer

variable {i : Issuer}

/-- What is issued tells whether the row was reset, and with that its counter. -/
theorem counter_of_generate {s : Store} {h : Sequence} {c : Context} {causer : Value} {now : Moment}
    {number : Issued} (hgenerate : (i.generate h c causer (some now) s).1 = .ok number)
    {row : Sequence} (hrow : s.row? h.key = some row) :
    ∃ due, row.resetDue i.zone now = .ok due ∧
      (row.period.isTimeBased = true → now.IsShown i.zone ∧ row.tally.reference.IsShown i.zone) ∧
      number.metadata.lookup "reset_performed" = some (.truth due) ∧
      number.counter = if due then row.step else row.nextValue := by
  obtain ⟨row', text, reason, done, hrow', hissues, rfl⟩ := generate_cases hgenerate
  rw [hrow] at hrow'
  cases hrow'
  have hdue := (Sequence.resetDue_of_reason hissues.due).1
  refine ⟨reason.isSome, hdue, hissues.isShown, rfl, ?_⟩
  show done.row.current = _
  rw [hissues.row]
  cases reason with
  | none => rfl
  | some text =>
    show 0 + row.step = row.step
    rw [Int.zero_add]

/-- The number that is issued after a change of configuration that keeps the rules, against the one
    that is issued without the change: each has the first counter if a reset is due on its row, and
    else the next.  A reset is due on both rows or on neither unless the row was never reset, the
    limit is not reached, and its last change before and the change now lie in different periods as
    seen from the time of issue.  As long as times do not go back, and none of them is a reading
    that the clock of the zone skips, the change can only hold a reset back. -/
theorem generate_after_update {s : Store} (hs : s.Reachable) {key : Key} {row : Sequence}
    (hrow : s.row? key = some row) {expected : Option Int} {changes : List (String × Value)}
    {updated : Sequence} (hupdate : (Store.update key expected changes s).1 = .ok updated)
    (hperiod : updated.period = row.period) (hlimit : updated.limit = row.limit)
    (hstep : updated.step = row.step) {h h' : Sequence} (hkey : h.key = key) (hkey' : h'.key = key)
    {c c' : Context} {causer causer' : Value} {now : Moment} {number number' : Issued}
    (hwithout : (i.generate h c causer (some now) s).1 = .ok number)
    (hwith : (i.generate h' c' causer' (some now) (Store.update key expected changes s).2).1 =
      .ok number') :
    ∃ due due',
      number.metadata.lookup "reset_performed" = some (.truth due) ∧
      number'.metadata.lookup "reset_performed" = some (.truth due') ∧
      number.counter = (if due then row.step else row.nextValue) ∧
      number'.counter = (if due' then row.step else row.nextValue) ∧
      (due = due' ↔ (row.period.isTimeBased = true → row.lastResetAt = none →
        row.tally.dueByCount row.limit = false →
          row.period.together i.zone row.updatedAt now =
            row.period.together i.zone s.clock now)) ∧
      (row.updatedAt.IsReal i.zone → s.clock.IsReal i.zone → now.IsReal i.zone →
        row.updatedAt.instant ≤ s.clock.instant → s.clock.instant ≤ now.instant →
          due' = true → due = true) := by
  subst hkey
  have hsound := hs.sound
  obtain ⟨row', hrow', hchanged, hsettled⟩ := Store.update_cases hupdate
  rw [hrow] at hrow'
  cases hrow'
  have hkept := Sequence.changed_eq_ok hchanged
  have hsame : row.SameStanding updated :=
    ⟨hperiod, hlimit, hstep, hkept.current, hkept.lastResetAt⟩
  have hclock : updated.updatedAt = s.clock := Sequence.updatedAt_of_changed hchanged
  have hstored : (Store.update h.key expected changes s).2.row? h'.key = some updated := by
    rw [hsettled.row?, hkey', hsound.rows.keyed hrow, if_pos (beq_self_eq_true h.key)]
  obtain ⟨due, hdue, hshown, hreset, hcounter⟩ := counter_of_generate hwithout hrow
  obtain ⟨due', hdue', hshown', hreset', hcounter'⟩ := counter_of_generate hwith hstored
  rw [hstep, hsame.nextValue] at hcounter'
  refine ⟨due, due', hreset, hreset', hcounter, hcounter', ?_, ?_⟩
  · rw [← hclock]
    exact hsame.due_iff hdue hdue'
  · rw [← hclock]
    exact fun hreal hreal' hnow => hsame.due_of_later hdue hdue' hshown hshown' hreal hreal' hnow

/-- A yearly row that was never reset, changed and then issued from in the year after its first
    number: with the change its counter goes on, without it it starts again. -/
theorem generate_after_update_new_year :
    let day (year month day : Nat) : Moment := ⟨Moment.midnight ⟨year, month, day⟩, none, false⟩
    let row : Sequence := ⟨none, "acme", "invoices", "INV-\x7bYEAR\x7d-\x7bCOUNTER:5\x7d", .yearly,
      none, 5, 1, 0, none, 0, [], day 2023 12 31, day 2023 12 31⟩
    let i : Issuer := ⟨.empty, .utc⟩
    let s₀ := ((Operation.insert row).run i (.new .memory 5000 (day 2023 12 31))).2
    let s₁ := ((Operation.edit (.generate row .empty .none (some (day 2023 12 31)))).run i s₀).2
    let s : Store := { s₁ with clock := day 2024 1 5 }
    let changed := Store.update row.key none [("padding", .whole 6)] s
    let now := day 2024 1 6
    ∃ stored updated number number', s.row? row.key = some stored ∧ changed.1 = .ok updated ∧
      (i.generate row .empty .none (some now) s).1 = .ok number ∧
      (i.generate row .empty .none (some now) changed.2).1 = .ok number' ∧
      number.number = "INV-2024-00001" ∧ number'.number = "INV-2024-00002" ∧
      ∃ due due',
        number.metadata.lookup "reset_performed" = some (.truth due) ∧
        number'.metadata.lookup "reset_performed" = some (.truth due') ∧
        number.counter = (if due then stored.step else stored.nextValue) ∧
        number'.counter = (if due' then stored.step else stored.nextValue) ∧
        (due = due' ↔ (stored.period.isTimeBased = true → stored.lastResetAt = none →
          stored.tally.dueByCount stored.limit = false →
            stored.period.together i.zone stored.updatedAt now =
              stored.period.together i.zone s.clock now)) ∧
        (stored.updatedAt.IsReal i.zone → s.clock.IsReal i.zone → now.IsReal i.zone →
          stored.updatedAt.instant ≤ s.clock.instant → s.clock.instant ≤ now.instant →
            due' = true → due = true) := by
  intro day row i s₀ s₁ s changed now
  have hs : s.Reachable := .wait _ (.run i _ (.run i (.insert row) (.new 5000 (day 2023 12 31))))
  -- The change keeps the rules of counting, since it names none of them.
  have hstored : (s.row? row.key).map (fun r => (r.period, r.limit, r.step)) =
      some (.yearly, none, 1) := by
    decide +kernel
  have hupdated : changed.1.toOption.map (fun r => (r.period, r.limit, r.step)) =
      some (.yearly, none, 1) := by
    decide +kernel
  have hissued : (i.generate row .empty .none (some now) s).1.toOption.map (·.number) =
      some "INV-2024-00001" := by
    decide +kernel
  have hissued' : (i.generate row .empty .none (some now) changed.2).1.toOption.map (·.number) =
      some "INV-2024-00002" := by
    decide +kernel
  obtain ⟨stored, hrow, hrules⟩ := Option.map_eq_some_iff.mp hstored
  obtain ⟨updated, hupdated, hrules'⟩ := Option.map_eq_some_iff.mp hupdated
  obtain ⟨number, hissued, hnumber⟩ := Option.map_eq_some_iff.mp hissued
  obtain ⟨number', hissued', hnumber'⟩ := Option.map_eq_some_iff.mp hissued'
  have hupdate := Except.eq_ok_of_toOption hupdated
  have hwithout := Except.eq_ok_of_toOption hissued
  have hwith := Except.eq_ok_of_toOption hissued'
  have hkept := hrules'.trans hrules.symm
  rw [Prod.mk.injEq, Prod.mk.injEq] at hkept
  obtain ⟨hperiod, hlimit, hstep⟩ := hkept
  exact ⟨stored, updated, number, number', hrow, hupdate, hwithout, hwith, hnumber, hnumber',
    generate_after_update hs hrow hupdate hperiod hlimit hstep rfl rfl hwithout hwith⟩

end Issuer

end SerialNumbers
