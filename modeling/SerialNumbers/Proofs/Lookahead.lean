/-
  SerialNumbers.Proofs.Lookahead

  Looking ahead tells the truth.  A preview works on the row as it stands,
  without a lock and without a transaction; issuing resets the row if that is
  due, counts it up, renders it and logs it.  As long as nobody comes in between,
  both come to the same number or the same failure, unless something is too long
  to be written into the log, which a preview does not write (`Issuer.Loggable`);
  then no number is issued at all.  What else is told of the next number is so
  (`Issuer.preview_foretells`).
-/
import SerialNumbers.Proofs.Store.Valid
import SerialNumbers.Proofs.Value

namespace SerialNumbers

open Time

/-! ## Whether a reset is due, and why -/

namespace Sequence

variable {s : Sequence} {zone : Zone} {now : Moment}

/-- A limit that has been reached can be written. -/
def LimitWritable (s : Sequence) : Prop :=
  ∀ limit, s.limit = some limit → limit ≤ s.current → Number.Writable limit

theorem countReason_eq_error {e : Failure} (h : s.tally.countReason s.limit = .error e) :
    ¬s.LimitWritable ∧ e = .longWhole := by
  unfold Tally.countReason Tally.dueByCount at h
  cases hlimit : s.limit with
  | none =>
    rw [hlimit] at h
    cases h
  | some limit =>
    rw [hlimit] at h
    split at h
    · rename_i hreached
      obtain ⟨hlong, he⟩ := Number.numeral_eq_error.mp (Except.map_eq_error.mp h)
      exact ⟨fun hwritable => hlong (hwritable limit hlimit (of_decide_eq_true hreached)), he⟩
    · cases h

theorem countReason_eq_ok {reasons : List String}
    (h : s.tally.countReason s.limit = .ok reasons) :
    s.LimitWritable ∧ reasons.isEmpty = !s.tally.dueByCount s.limit := by
  unfold Tally.countReason at h
  cases hdue : s.tally.dueByCount s.limit with
  | true =>
    rw [hdue, if_pos rfl] at h
    obtain ⟨text, htext, rfl⟩ := Except.map_eq_ok.mp h
    refine ⟨fun limit hlimit _ => ?_, rfl⟩
    rw [hlimit] at htext
    exact (Number.numeral_eq_ok.mp htext).1
  | false =>
    rw [hdue] at h
    cases h
    refine ⟨fun limit hlimit hreached => ?_, rfl⟩
    unfold Tally.dueByCount at hdue
    rw [hlimit] at hdue
    exact absurd hreached (of_decide_eq_false hdue)

/-- A reset is due when there is a reason for it, and then a limit that has been reached is written
    in the reason. -/
theorem resetDue_of_reason {reason : Option String}
    (h : s.resetReason? zone now = .ok reason) :
    s.resetDue zone now = .ok reason.isSome ∧ s.LimitWritable := by
  obtain ⟨byTime, htime, h⟩ := Except.bind_eq_ok.mp h
  obtain ⟨byCount, hcount, h⟩ := Except.bind_eq_ok.mp h
  obtain ⟨hwritable, hempty⟩ := countReason_eq_ok hcount
  cases h
  refine ⟨?_, hwritable⟩
  show (s.tally.dueByTime s.period zone now >>= _) = _
  rw [htime, Except.ok_bind]
  cases byTime with
  | true => rfl
  | false =>
    rw [if_neg Bool.false_ne_true, List.nil_append, hempty]
    cases s.tally.dueByCount s.limit <;> rfl

/-- Where there is no telling why, there is no telling whether, or the limit is too long. -/
theorem resetReason?_eq_error {e : Failure} (h : s.resetReason? zone now = .error e) :
    s.resetDue zone now = .error e ∨ ¬s.LimitWritable ∧ e = .longWhole := by
  rcases Except.bind_eq_error.mp h with htime | ⟨byTime, -, h⟩
  · exact .inl (Except.bind_eq_error.mpr (.inl htime))
  · rcases Except.bind_eq_error.mp h with hcount | ⟨byCount, -, h⟩
    · exact .inr (countReason_eq_error hcount)
    · cases h

end Sequence

/-- A row is at rest in a store: it stands there as it is, valid, and nobody holds its lock. -/
structure Store.AtRest (s : Store) (row : Sequence) : Prop where
  memory : s.backing = .memory
  free : s.isBusy row.key = false
  stored : s.row? row.key = some row
  valid : row.Valid

namespace Issuer

/-- The counter of the next number is that of the row once it is readied and counted up. -/
theorem nextCounter_of_reason (i : Issuer) {row : Sequence} {now : Moment}
    {reason : Option String} (h : row.resetReason? i.zone now = .ok reason) :
    i.nextCounter row now = .ok ((row.readied reason now).counted now).current := by
  unfold nextCounter
  rw [(Sequence.resetDue_of_reason h).1]
  cases reason with
  | none => rfl
  | some text =>
    show Except.ok row.step = Except.ok (0 + row.step)
    rw [Int.zero_add]

/-! ## What is issued -/

/-- Rendering does not look at what counting changes. -/
theorem render_counted (i : Issuer) (t : Template) (row : Sequence) (reason : Option String)
    (counter : Int) (c : Context) (now : Moment) :
    i.render t ((row.readied reason now).counted now) counter c now =
      i.render t row counter c now := by
  cases reason <;> rfl

theorem length_of_render {i : Issuer} {t : Template} {row : Sequence} {counter : Int}
    {c : Context} {now : Moment} {number : String}
    (h : i.render t row counter c now = .ok number) : number.length ≤ Pattern.maxLength := by
  obtain ⟨here, scope, -, -, -, hlength⟩ := evaluate_of_render h
  exact hlength

section

variable (i : Issuer) {t : Template} (c : Context) {causer : Value} (now : Moment)

/-- What a reset is logged with, if there is one. -/
def nameReset (reason : Option String) (causer : Value) : Except Failure Unit :=
  if reason.isSome then LogEntry.named causer else .ok ()

/-- Resetting if that is due fails where it cannot be told why, or where it cannot be logged. -/
theorem resetIfDue_map (tx : Transaction) (hcauser : Rule.namesCauser causer = true) :
    (i.resetIfDue tx causer now).map (fun x => (x.1, x.2.current)) = do
      let reason ← tx.current.resetReason? i.zone now
      nameReset reason causer
      return (reason, tx.current.readied reason now) := by
  unfold resetIfDue
  cases tx.current.resetReason? i.zone now with
  | error e => rfl
  | ok reason =>
    cases reason with
    | none => rfl
    | some text =>
      have hnamed : (LogEntry.reset (tx.reset now).current (.text ("automatic: " ++ text)) causer
          now).map (fun _ => ()) = LogEntry.named causer :=
        LogEntry.about_map _ .reset [] (some ("automatic: " ++ text)) now (Nat.zero_le _)
          (Int.le_refl 0) hcauser
      simp only [Except.ok_bind, nameReset, ← hnamed]
      cases LogEntry.reset (tx.reset now).current (.text ("automatic: " ++ text)) causer now <;> rfl

/-- Taking the next number of a valid row fails where it cannot be rendered, or where it cannot be
    logged. -/
theorem issueIn_map (tx : Transaction) (hrow : tx.current.Valid)
    (hcauser : Rule.namesCauser causer = true) :
    (i.issueIn t tx c causer now).map (fun x => (x.1, x.2.current)) = do
      let number ← i.render t (tx.current.counted now) (tx.current.counted now).current c now
      let _ ← c.snapshot
      LogEntry.named causer
      return (number, tx.current.counted now) := by
  unfold issueIn
  have hcurrent : (tx.increment now).current = tx.current.counted now := rfl
  simp only [hcurrent]
  cases hrender : i.render t (tx.current.counted now) (tx.current.counted now).current c now with
  | error e => rfl
  | ok number =>
    cases c.snapshot with
    | error e => rfl
    | ok entries =>
      have hnamed : (LogEntry.about (tx.current.counted now) .generated number
          (tx.current.counted now).current entries .none causer now).map (fun _ => ()) =
            LogEntry.named causer :=
        LogEntry.about_map _ .generated entries none now (length_of_render hrender)
          (hrow.counted now).current hcauser
      simp only [Except.ok_bind, ← hnamed]
      cases LogEntry.about (tx.current.counted now) .generated number
        (tx.current.counted now).current entries .none causer now <;> rfl

/-- What issuing comes to, told from the row as it stands. -/
theorem issueStep_map {row : Sequence} (ht : i.checkedTemplate row.pattern = .ok t)
    (hrow : row.Valid) (hcauser : Rule.namesCauser causer = true) :
    (i.issueStep t (.start row) c causer now).map (fun x => (x.1, x.2.current)) = do
      let reason ← row.resetReason? i.zone now
      nameReset reason causer
      let counted := (row.readied reason now).counted now
      let number ← i.render t row counted.current c now
      let _ ← c.snapshot
      LogEntry.named causer
      return ((number, reason), counted) := by
  rw [issueStep_of_checked ht]
  simp only [Transaction.start, ht, Except.ok_bind]
  show ((i.resetIfDue (.start row) causer now >>= _) : Except Failure _).map _ = _
  have hreset := resetIfDue_map i now (.start row) hcauser
  refine (Except.map_bind_of_map hreset (l := fun x => do
    let number ← i.render t row (x.2.counted now).current c now
    let _ ← c.snapshot
    LogEntry.named causer
    return ((number, x.1), x.2.counted now)) ?_).trans ?_
  · -- The row that is counted up is the one that was readied.
    rintro ⟨reason, tx⟩ hdone
    rw [hdone] at hreset
    obtain ⟨reason', -, hready⟩ := Except.bind_eq_ok.mp hreset.symm
    obtain ⟨-, -, hready⟩ := Except.bind_eq_ok.mp hready
    obtain ⟨rfl, hready⟩ := Prod.mk.inj (Except.ok.inj hready)
    have hcurrent : tx.current = row.readied reason' now := hready.symm
    have hvalid : tx.current.Valid := hcurrent ▸ hrow.readied reason' now
    refine (Except.map_bind_of_map (issueIn_map i c now tx hvalid hcauser)
      (l := fun x => .ok ((x.1, reason'), x.2)) fun _ _ => rfl).trans ?_
    simp only [hcurrent, render_counted, bind_assoc]
    rfl
  · simp only [bind_assoc]
    rfl

/-- What is answered when a number is issued, told from the row as it stands. -/
theorem generate_answer {row : Sequence} {s : Store} (now : Option Moment)
    (hrest : s.AtRest row) (hcauser : Rule.namesCauser causer = true) :
    (i.generate row c causer now s).1 = do
      let t ← i.checkedTemplate row.pattern
      let reason ← row.resetReason? i.zone (now.getD s.clock)
      nameReset reason causer
      let counted := (row.readied reason (now.getD s.clock)).counted (now.getD s.clock)
      let number ← i.render t row counted.current c (now.getD s.clock)
      let _ ← c.snapshot
      LogEntry.named causer
      return issued number reason counted (now.getD s.clock) := by
  have hrun := Edit.run_answer (i := i) (e := .generate row c causer now) hrest.memory hrest.free
    hrest.stored rfl
  have hanswer : ((Edit.generate row c causer now).run i s).1 =
      (i.generate row c causer now s).1.map .number := by
    show ((Answer.number <$> i.generate row c causer now) s).1 = _
    rw [StoreM.map_apply]
  -- The answer is known up to being told as the answer of an operation.
  refine Except.map_inj ?_ (hanswer.symm.trans (hrun.trans ?_))
  · intro a b h
    exact Answer.number.inj h
  let inside (t : Template) := Inside.issue i t c causer (now.getD s.clock)
  let told (x : String × Option String) (row : Sequence) : Answer :=
    .number (issued x.1 x.2 row (now.getD s.clock))
  show (i.checkedTemplate row.pattern >>= fun t => .ok ((inside t).work told)) >>= _ =
    (i.checkedTemplate row.pattern >>= _).map _
  cases ht : i.checkedTemplate row.pattern with
  | error e => rfl
  | ok t =>
    have hstep := issueStep_map i c (now.getD s.clock) ht hrest.valid hcauser
    calc ((inside t).work told s.clock s.entries row >>= fun done => .ok done.answer)
        = ((i.issueStep t (.start row) c causer (now.getD s.clock)).map
            fun x => (x.1, x.2.current)).map fun x => told x.1 x.2 := by
          show (i.issueStep t (.start row) c causer (now.getD s.clock) >>= _) >>= _ = _
          cases i.issueStep t (.start row) c causer (now.getD s.clock) <;> rfl
      _ = _ := by
          rw [hstep, Except.ok_bind]
          show Functor.map (f := Except Failure)
              (fun x : (String × Option String) × Sequence => told x.1 x.2) _ =
            Functor.map (f := Except Failure) Answer.number _
          simp only [map_bind, map_pure]
          rfl

/-! ## What is seen ahead -/

variable {i} {c}

theorem currentRow_apply {row : Sequence} {s : Store} (hmemory : s.backing = .memory)
    (hstored : s.row? row.key = some row) : currentRow row s = (.ok row, s) := by
  unfold currentRow
  rw [Store.require_memory hmemory, hstored]

theorem preview_apply {row : Sequence} {s : Store} {now : Option Moment}
    (hmemory : s.backing = .memory) (hstored : s.row? row.key = some row) :
    i.preview row c now s = (i.previewRow row c (now.getD s.clock), s) := by
  unfold preview
  simp only [StoreM.bind_apply, Store.timeOr_apply, currentRow_apply hmemory hstored,
    StoreM.ofExcept_apply]

theorem outlook_apply {row : Sequence} {s : Store} {now : Option Moment}
    (hmemory : s.backing = .memory) (hstored : s.row? row.key = some row) :
    i.outlook row c now s = ((do
      let number ← i.previewRow row c (now.getD s.clock)
      let next ← i.nextCounter row (now.getD s.clock)
      let reset ← row.resetInfo i.zone (now.getD s.clock)
      return ⟨number, row.pattern, row.current, next, reset⟩), s) := by
  unfold outlook
  simp only [StoreM.bind_apply, Store.timeOr_apply, currentRow_apply hmemory hstored,
    StoreM.ofExcept_apply]

theorem needsReset_apply {row : Sequence} {s : Store} {now : Option Moment}
    (hmemory : s.backing = .memory) (hstored : s.row? row.key = some row) :
    i.needsReset row now s = (row.resetDue i.zone (now.getD s.clock), s) := by
  unfold needsReset
  simp only [StoreM.bind_apply, Store.timeOr_apply, currentRow_apply hmemory hstored,
    StoreM.ofExcept_apply]

theorem remaining_apply {row : Sequence} {s : Store} {now : Option Moment}
    (hmemory : s.backing = .memory) (hstored : s.row? row.key = some row) :
    (i.remaining row now s).2 = s := by
  unfold remaining
  simp only [StoreM.bind_apply, Store.timeOr_apply, currentRow_apply hmemory hstored,
    StoreM.ofExcept_apply]
  cases row.period.remaining? i.zone (now.getD s.clock) <;> rfl

end

/-- A failure to write something into the log: it is too long, or names who asked and is not
    taken. -/
def Unwritten (e : Failure) : Prop :=
  e.isTooLong = true ∨ e = LogEntry.unnamed

/-- What is logged of the next number besides the number can be written: who asked for it, the
    context, and the limit, if the counter has reached it. -/
structure Loggable (row : Sequence) (c : Context) (causer : Value) : Prop where
  causer : Rule.isCauser causer = true
  context : ∃ entries, c.snapshot = .ok entries
  limit : row.LimitWritable

/-- What is seen ahead of a sequence is what comes when its next number is issued. -/
structure Foretells (i : Issuer) (row : Sequence) (c : Context) (causer : Value)
    (now : Option Moment) (s : Store) : Prop where
  /-- The number is foretold, or the failure. -/
  number : Loggable row c causer →
    (i.preview row c now s).1 = (i.generate row c causer now s).1.map (·.number)
  /-- No number is issued that cannot be logged: it fails as is foretold, or is not written. -/
  unwritten : ¬Loggable row c causer → ∃ e, (i.generate row c causer now s).1 = .error e ∧
    ((i.preview row c now s).1 = .error e ∨ Unwritten e)
  /-- It is foretold whether the counter starts again. -/
  reset : ∀ {issued : Issued}, (i.generate row c causer now s).1 = .ok issued →
    ∃ due, (i.needsReset row now s).1 = .ok due ∧
      issued.metadata.lookup "reset_performed" = some (.truth due)
  /-- Whatever is told of the next number is so. -/
  outlook : Loggable row c causer → ∀ {o : Outlook}, (i.outlook row c now s).1 = .ok o →
    ∃ issued, (i.generate row c causer now s).1 = .ok issued ∧ issued.number = o.number ∧
      issued.counter = o.next ∧
      issued.metadata.lookup "reset_performed" = some (.truth o.reset.willResetNext)
  /-- Looking ahead changes nothing. -/
  unchanged : (i.preview row c now s).2 = s ∧ (i.outlook row c now s).2 = s ∧
    (i.needsReset row now s).2 = s ∧ (i.remaining row now s).2 = s

/-! ## What is issued against what is seen -/

section

variable {i : Issuer} {row : Sequence} {c : Context} {causer : Value} {now : Option Moment}
  {s : Store}

theorem named_eq_ok {u : Unit} (h : LogEntry.named causer = .ok u) :
    Rule.isCauser causer = true := by
  unfold LogEntry.named at h
  split at h
  · assumption
  · cases h

theorem named_eq_error {e : Failure} (h : LogEntry.named causer = .error e) :
    Rule.isCauser causer = false ∧ e = LogEntry.unnamed := by
  unfold LogEntry.named at h
  split at h
  · cases h
  · rename_i hnot
    exact ⟨Bool.eq_false_iff.mpr hnot, (Except.error.inj h).symm⟩

theorem nameReset_eq_error {reason : Option String} {e : Failure}
    (h : nameReset reason causer = .error e) :
    Rule.isCauser causer = false ∧ e = LogEntry.unnamed := by
  unfold nameReset at h
  split at h
  · exact named_eq_error h
  · cases h

/-- A number that is issued comes from what a preview finds too, and could be logged. -/
structure IssuedFrom (i : Issuer) (row : Sequence) (c : Context) (causer : Value) (now : Moment)
    (t : Template) (reason : Option String) (number : String) : Prop where
  template : i.checkedTemplate row.pattern = .ok t
  due : row.resetReason? i.zone now = .ok reason
  rendered : i.render t row ((row.readied reason now).counted now).current c now = .ok number
  loggable : Loggable row c causer

theorem IssuedFrom.previewRow {now : Moment} {t : Template} {reason : Option String}
    {number : String} (h : IssuedFrom i row c causer now t reason number) :
    i.previewRow row c now = .ok number := by
  unfold Issuer.previewRow
  rw [h.template, Except.ok_bind, i.nextCounter_of_reason h.due, Except.ok_bind]
  exact h.rendered

section

variable (hrest : s.AtRest row) (hcauser : Rule.namesCauser causer = true)

include hrest hcauser

theorem issuedFrom_of_generate {answer : Issued}
    (h : (i.generate row c causer now s).1 = .ok answer) :
    ∃ t reason number, IssuedFrom i row c causer (now.getD s.clock) t reason number ∧
      answer = issued number reason ((row.readied reason (now.getD s.clock)).counted
        (now.getD s.clock)) (now.getD s.clock) := by
  rw [generate_answer i c now hrest hcauser] at h
  obtain ⟨t, ht, h⟩ := Except.bind_eq_ok.mp h
  obtain ⟨reason, hreason, h⟩ := Except.bind_eq_ok.mp h
  obtain ⟨-, -, h⟩ := Except.bind_eq_ok.mp h
  obtain ⟨number, hnumber, h⟩ := Except.bind_eq_ok.mp h
  obtain ⟨entries, hentries, h⟩ := Except.bind_eq_ok.mp h
  obtain ⟨_, hnamed, h⟩ := Except.bind_eq_ok.mp h
  cases h
  exact ⟨t, reason, number, ⟨ht, hreason, hnumber, named_eq_ok hnamed, ⟨entries, hentries⟩,
    (Sequence.resetDue_of_reason hreason).2⟩, rfl⟩

/-- What keeps a number from being issued keeps a preview from it too, or is not written. -/
theorem previewRow_of_failure {e : Failure} (h : (i.generate row c causer now s).1 = .error e) :
    i.previewRow row c (now.getD s.clock) = .error e ∨
      ¬Loggable row c causer ∧ Unwritten e := by
  have hunnamed (hnot : Rule.isCauser causer = false ∧ e = LogEntry.unnamed) :
      ¬Loggable row c causer ∧ Unwritten e :=
    ⟨fun hlog => Bool.false_ne_true (hnot.1.symm.trans hlog.causer), .inr hnot.2⟩
  rw [generate_answer i c now hrest hcauser] at h
  unfold Issuer.previewRow
  rcases Except.bind_eq_error.mp h with h | ⟨t, ht, h⟩
  · exact .inl (Except.bind_eq_error.mpr (.inl h))
  rw [ht, Except.ok_bind]
  rcases Except.bind_eq_error.mp h with h | ⟨reason, hreason, h⟩
  · rcases Sequence.resetReason?_eq_error h with hdue | ⟨hlimit, rfl⟩
    · left
      unfold nextCounter
      rw [hdue]
      rfl
    · exact .inr ⟨fun hlog => hlimit hlog.limit, .inl Failure.isTooLong_longWhole⟩
  rw [i.nextCounter_of_reason hreason, Except.ok_bind]
  rcases Except.bind_eq_error.mp h with h | ⟨-, -, h⟩
  · exact .inr (hunnamed (nameReset_eq_error h))
  rcases Except.bind_eq_error.mp h with h | ⟨number, -, h⟩
  · exact .inl h
  rcases Except.bind_eq_error.mp h with h | ⟨entries, -, h⟩
  · refine .inr ⟨fun hlog => ?_, .inl (Context.snapshot_eq_error h)⟩
    obtain ⟨entries, hentries⟩ := hlog.context
    cases hentries.symm.trans h
  rcases Except.bind_eq_error.mp h with h | ⟨-, -, h⟩
  · exact .inr (hunnamed (named_eq_error h))
  · cases h

theorem preview_eq_generate (hlog : Loggable row c causer) :
    (i.preview row c now s).1 = (i.generate row c causer now s).1.map (·.number) := by
  rw [preview_apply hrest.memory hrest.stored]
  cases hgenerate : (i.generate row c causer now s).1 with
  | ok answer =>
    obtain ⟨t, reason, number, hfrom, rfl⟩ := issuedFrom_of_generate hrest hcauser hgenerate
    exact hfrom.previewRow
  | error e =>
    rcases previewRow_of_failure hrest hcauser hgenerate with hfails | ⟨hnot, -⟩
    · exact hfails
    · exact absurd hlog hnot

theorem generate_of_not_loggable (hnot : ¬Loggable row c causer) :
    ∃ e, (i.generate row c causer now s).1 = .error e ∧
      ((i.preview row c now s).1 = .error e ∨ Unwritten e) := by
  rw [preview_apply hrest.memory hrest.stored]
  cases hgenerate : (i.generate row c causer now s).1 with
  | ok answer =>
    obtain ⟨t, reason, number, hfrom, -⟩ := issuedFrom_of_generate hrest hcauser hgenerate
    exact absurd hfrom.loggable hnot
  | error e =>
    exact ⟨e, rfl, (previewRow_of_failure hrest hcauser hgenerate).imp_right And.right⟩

theorem needsReset_of_generate {answer : Issued}
    (h : (i.generate row c causer now s).1 = .ok answer) :
    ∃ due, (i.needsReset row now s).1 = .ok due ∧
      answer.metadata.lookup "reset_performed" = some (.truth due) := by
  obtain ⟨t, reason, number, hfrom, rfl⟩ := issuedFrom_of_generate hrest hcauser h
  rw [needsReset_apply hrest.memory hrest.stored]
  exact ⟨reason.isSome, (Sequence.resetDue_of_reason hfrom.due).1, rfl⟩

theorem generate_of_outlook (hlog : Loggable row c causer) {o : Outlook}
    (h : (i.outlook row c now s).1 = .ok o) :
    ∃ answer, (i.generate row c causer now s).1 = .ok answer ∧ answer.number = o.number ∧
      answer.counter = o.next ∧
      answer.metadata.lookup "reset_performed" = some (.truth o.reset.willResetNext) := by
  rw [outlook_apply hrest.memory hrest.stored] at h
  obtain ⟨number, hshown, h⟩ := Except.bind_eq_ok.mp h
  obtain ⟨next, hnext, h⟩ := Except.bind_eq_ok.mp h
  obtain ⟨info, hinfo, h⟩ := Except.bind_eq_ok.mp h
  cases h
  -- The preview came to a number, so one is issued.
  have hnumber : (i.preview row c now s).1 = (i.generate row c causer now s).1.map (·.number) :=
    preview_eq_generate hrest hcauser hlog
  rw [preview_apply hrest.memory hrest.stored] at hnumber
  obtain ⟨answer, hanswer, rfl⟩ := Except.map_eq_ok.mp (hnumber.symm.trans hshown)
  obtain ⟨t, reason, number, hfrom, rfl⟩ := issuedFrom_of_generate hrest hcauser hanswer
  obtain ⟨upcoming, -, hinfo⟩ := Except.bind_eq_ok.mp hinfo
  obtain ⟨due, hdue, hinfo⟩ := Except.bind_eq_ok.mp hinfo
  cases hinfo
  have hflag := (Sequence.resetDue_of_reason hfrom.due).1
  have hcounter := i.nextCounter_of_reason hfrom.due
  refine ⟨_, hanswer, rfl, Except.ok.inj (hcounter.symm.trans hnext), ?_⟩
  rw [← Except.ok.inj (hflag.symm.trans hdue)]
  rfl

theorem foretells_of_atRest : Foretells i row c causer now s where
  number hlog := preview_eq_generate hrest hcauser hlog
  unwritten hnot := generate_of_not_loggable hrest hcauser hnot
  reset h := needsReset_of_generate hrest hcauser h
  outlook hlog _ h := generate_of_outlook hrest hcauser hlog h
  unchanged := by
    rw [preview_apply hrest.memory hrest.stored, outlook_apply hrest.memory hrest.stored,
      needsReset_apply hrest.memory hrest.stored, remaining_apply hrest.memory hrest.stored]
    exact ⟨rfl, rfl, rfl, rfl⟩

end

end

/-- In every store that was reached with valid rows, whoever holds whichever other locks, what
    is seen ahead of a stored sequence whose lock is free is what comes, and what cannot be logged
    does not come. -/
theorem preview_foretells {s : Store} (hs : s.Regular) (locks : Table Key Nat) (nextLock : Nat)
    (held : List Nat) {key : Key} {row : Sequence} (hrow : s.row? key = some row)
    (hfree : { s with locks, nextLock, held }.isBusy key = false) (i : Issuer) (c : Context)
    {causer : Value} (hcauser : Rule.namesCauser causer = true) (now : Option Moment) :
    Foretells i row c causer now { s with locks, nextLock, held } := by
  have hsound := hs.reachable.sound
  have hkey : row.key = key := hsound.rows.keyed hrow
  subst hkey
  exact foretells_of_atRest ⟨hsound.memory, hfree, hrow, hs.valid hrow⟩ hcauser

/-- A sequence with years and a limit, in a new year and at its limit, while another sequence is
    locked. -/
theorem preview_foretells_new_year :
    let time (seconds : Int) : Moment :=
      ⟨Moment.midnight ⟨2024, 1, 1⟩ + 1000000 * seconds, none, false⟩
    let row : Sequence := ⟨none, "acme", "invoices", "INV-\x7bYEAR\x7d-\x7bCOUNTER:5\x7d", .yearly,
      some 5, 5, 2, 5, some (time (-60)), 3, [], time (-60), time (-60)⟩
    let i : Issuer := ⟨.empty, .utc⟩
    let s : Store := { ((Operation.insert row).run i (.new .memory 5000 (time (-60)))).2 with
      clock := time 1 }
    let stored := Operation.stored (.new .memory 5000 (time (-60))) row
    let locks : Table Key Nat := .ofList [(("acme", "orders"), 0)]
    let t : Store := { s with locks, nextLock := 1, held := [0] }
    s.Regular ∧ s.row? row.key = some stored ∧ t.isBusy row.key = false ∧
      Rule.namesCauser (.whole 7) = true ∧ Loggable stored .empty (.whole 7) ∧
      (i.preview stored .empty none t).1.toOption = some "INV-2024-00002" ∧
      Foretells i stored .empty (.whole 7) none t := by
  intro time row i s stored locks t
  have hrow : row.Valid := by
    refine ⟨by decide, by decide, by decide, ?_, by decide, by decide, by decide, by decide⟩
    rintro n ⟨⟩
    decide
  have hinsert : (Operation.insert row).IsRegular := hrow
  have hs : s.Regular := .wait (time 1) (.run i hinsert (.new 5000 (time (-60))))
  have hstored : s.row? row.key = some stored := rfl
  have hfree : t.isBusy row.key = false := rfl
  have hlog : Loggable stored .empty (.whole 7) := by
    refine ⟨by decide +kernel, ⟨[], rfl⟩, ?_⟩
    rintro limit ⟨⟩ -
    decide +kernel
  have hnumber : (i.preview stored .empty none t).1.toOption = some "INV-2024-00002" := by
    decide +kernel
  exact ⟨hs, hstored, hfree, rfl, hlog, hnumber,
    preview_foretells hs locks 1 [0] hstored hfree i .empty rfl none⟩

/-- A note in the context that is too long to be logged, and a number for who asks that is: both
    are told the next number, and neither gets it. -/
theorem preview_not_issued :
    let row : Sequence := ⟨none, "acme", "invoices", "INV-\x7bCOUNTER:5\x7d", .never, none, 5, 1, 0,
      none, 0, [], ⟨Moment.midnight ⟨2024, 1, 1⟩, some .utc, false⟩,
      ⟨Moment.midnight ⟨2024, 1, 1⟩, some .utc, false⟩⟩
    let i : Issuer := ⟨.empty, .utc⟩
    let s := ((Operation.insert row).run i (.new .memory 5000 row.createdAt)).2
    let stored := Operation.stored (.new .memory 5000 row.createdAt) row
    let noted := Context.ofPairs [("note", .decimal (.finite ⟨false, 1, 999999999999999999⟩))]
    let number (c : Context) (causer : Value) :=
      ((i.preview stored c none s).1, (i.generate stored c causer none s).1.map (·.number))
    s.Regular ∧ s.row? row.key = some stored ∧ s.isBusy row.key = false ∧
      Rule.namesCauser .none = true ∧ Rule.namesCauser (.whole digitBound) = true ∧
      number noted .none = (.ok "INV-00001", .error .outOfMemory) ∧
      number .empty (.whole digitBound) = (.ok "INV-00001", .error LogEntry.unnamed) := by
  intro row i s stored noted number
  have hrow : row.Valid :=
    ⟨by decide, by decide, by decide, nofun, by decide, by decide, by decide, by decide⟩
  have hinsert : (Operation.insert row).IsRegular := hrow
  exact ⟨.run i hinsert (.new 5000 row.createdAt), rfl, rfl, rfl, rfl, by decide +kernel,
    by decide +kernel⟩

end Issuer

end SerialNumbers
