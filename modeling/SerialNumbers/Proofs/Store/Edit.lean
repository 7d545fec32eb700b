/-
  SerialNumbers.Proofs.Store.Edit

  Edits: the operations that change one row under its lock.  What an edit does
  while it holds the lock is a `Work`, a function of the clock, the log and the
  row that was read, and `perform` is such a work done by one client alone.
  Main statement: running an edit is performing its work, up to notes
  (`Edit.run_alike`), so that whatever is said of `perform` is said of counting
  up, issuing, resetting, overriding and updating at once.
-/
import SerialNumbers.Issuer
import SerialNumbers.Proofs.Store.Transaction

namespace SerialNumbers

open Time

variable {α : Type}

/-- What an operation answers. -/
inductive Answer where
  | row (row : Sequence)
  | number (issued : Issued)
  | removed (there : Bool)
  | entry (entry : LogEntry)

/-- What work on a row comes to: the row as it is to be, the entries for the log, and the
    answer. -/
structure Edited where
  row : Sequence
  entries : List LogEntry
  answer : Answer

/-- Work on a row: a function of the clock, the log and the row as it is read. -/
abbrev Work := Moment → List LogEntry → Sequence → Except Failure Edited

/-! ## Work inside transactions -/

/-- Work inside a transaction, which does not see the rest of the store. -/
abbrev Inside (α : Type) := Moment → List LogEntry → Transaction → Except Failure (α × Transaction)

namespace Inside

/-- Work on a transaction as work on its row. -/
def work (inside : Inside α) (answer : α → Sequence → Answer) : Work := fun clock log row => do
  let (a, tx) ← inside clock log (.start row)
  return ⟨tx.current, tx.pending, answer a tx.current⟩

/-- Counts the row up. -/
def increment (now : Option Moment) : Inside Unit := fun clock _ tx =>
  .ok ((), tx.increment (now.getD clock))

/-- Resets the row and logs it. -/
def reset (reason causer : Value) (stamp : Moment) : Inside Unit := fun _ _ tx => do
  let tx := tx.reset stamp
  let entry ← LogEntry.reset tx.current reason causer stamp
  return ((), tx.log entry)

/-- Sets the counter, looks at the log, and logs the change. -/
def override (value : Int) (reason causer : Value) (stamp : Moment)
    (look : List LogEntry → Sequence → Except Failure Unit) : Inside Unit := fun _ log tx => do
  let tx ← tx.override value stamp
  look log tx.current
  let entry ← LogEntry.about tx.current .overridden "" value [] reason causer stamp
  return ((), tx.log entry)

/-- Issues the next number. -/
def issue (i : Issuer) (t : Template) (c : Context) (causer : Value) (now : Moment) :
    Inside (String × Option String) := fun _ _ tx => i.issueStep t tx c causer now

/-- The transaction that comes out is about the same row, and has changed it. -/
def Changes (inside : Inside α) : Prop :=
  ∀ {clock log tx a tx'}, inside clock log tx = .ok (a, tx') →
    tx'.opened = tx.opened ∧ tx.current.version < tx'.current.version

theorem changes_increment (now : Option Moment) : Changes (increment now) := by
  intro clock log tx a tx' h
  cases h
  exact ⟨rfl, Int.lt_succ _⟩

theorem changes_reset (reason causer : Value) (stamp : Moment) :
    Changes (reset reason causer stamp) := by
  intro clock log tx a tx' h
  obtain ⟨entry, -, h⟩ := Except.bind_eq_ok.mp h
  cases h
  exact ⟨rfl, Int.lt_succ _⟩

theorem opened_of_override {tx tx' : Transaction} {value : Int} {now : Moment}
    (h : tx.override value now = .ok tx') :
    tx'.opened = tx.opened ∧ tx.current.version < tx'.current.version := by
  unfold Transaction.override at h
  split at h
  · cases h
  · cases h
    exact ⟨rfl, Int.lt_succ _⟩

theorem changes_override (value : Int) (reason causer : Value) (stamp : Moment)
    (look : List LogEntry → Sequence → Except Failure Unit) :
    Changes (override value reason causer stamp look) := by
  intro clock log tx a tx' h
  obtain ⟨tx₁, hover, h⟩ := Except.bind_eq_ok.mp h
  obtain ⟨_, -, h⟩ := Except.bind_eq_ok.mp h
  obtain ⟨entry, -, h⟩ := Except.bind_eq_ok.mp h
  cases h
  have hkept := opened_of_override hover
  exact hkept

theorem opened_of_resetIfDue {i : Issuer} {tx tx' : Transaction} {causer : Value} {now : Moment}
    {reason : Option String} (h : i.resetIfDue tx causer now = .ok (reason, tx')) :
    tx'.opened = tx.opened ∧ tx.current.version ≤ tx'.current.version := by
  unfold Issuer.resetIfDue at h
  obtain ⟨due, -, h⟩ := Except.bind_eq_ok.mp h
  cases due with
  | none =>
    cases h
    exact ⟨rfl, Int.le_refl _⟩
  | some text =>
    obtain ⟨entry, -, h⟩ := Except.bind_eq_ok.mp h
    cases h
    exact ⟨rfl, Int.le_of_lt (Int.lt_succ _)⟩

theorem opened_of_issueIn {i : Issuer} {t : Template} {tx tx' : Transaction} {c : Context}
    {causer : Value} {now : Moment} {number : String}
    (h : i.issueIn t tx c causer now = .ok (number, tx')) :
    tx'.opened = tx.opened ∧ tx.current.version < tx'.current.version := by
  unfold Issuer.issueIn at h
  obtain ⟨text, -, h⟩ := Except.bind_eq_ok.mp h
  obtain ⟨snapshot, -, h⟩ := Except.bind_eq_ok.mp h
  obtain ⟨entry, -, h⟩ := Except.bind_eq_ok.mp h
  cases h
  exact ⟨rfl, Int.lt_succ _⟩

/-- Issuing is resetting if that is due, and then taking the next number. -/
theorem issueStep_eq_ok {i : Issuer} {t : Template} {tx tx' : Transaction} {c : Context}
    {causer : Value} {now : Moment} {number : String} {reason : Option String}
    (h : i.issueStep t tx c causer now = .ok ((number, reason), tx')) :
    ∃ t' tx₁,
      (if tx.opened.pattern == t.pattern then .ok t
        else i.checkedTemplate tx.opened.pattern) = .ok t' ∧
      i.resetIfDue tx causer now = .ok (reason, tx₁) ∧
      i.issueIn t' tx₁ c causer now = .ok (number, tx') := by
  unfold Issuer.issueStep at h
  by_cases hp : tx.opened.pattern == t.pattern
  · -- The row still has the pattern that the caller knows, and so its template.
    rw [if_pos hp] at h ⊢
    obtain ⟨t', ht, h⟩ := Except.bind_eq_ok.mp h
    obtain ⟨⟨reason₁, tx₁⟩, hreset, h⟩ := Except.bind_eq_ok.mp h
    obtain ⟨⟨number₁, tx₂⟩, hissue, h⟩ := Except.bind_eq_ok.mp h
    cases h
    exact ⟨t', tx₁, ht, hreset, hissue⟩
  · rw [if_neg hp] at h ⊢
    obtain ⟨t', ht, h⟩ := Except.bind_eq_ok.mp h
    obtain ⟨⟨reason₁, tx₁⟩, hreset, h⟩ := Except.bind_eq_ok.mp h
    obtain ⟨⟨number₁, tx₂⟩, hissue, h⟩ := Except.bind_eq_ok.mp h
    cases h
    exact ⟨t', tx₁, ht, hreset, hissue⟩

theorem changes_issue (i : Issuer) (t : Template) (c : Context) (causer : Value) (now : Moment) :
    Changes (issue i t c causer now) := by
  intro clock log tx ⟨number, reason⟩ tx' h
  obtain ⟨t', tx₁, -, hreset, hissue⟩ := issueStep_eq_ok h
  obtain ⟨hopen₁, hver₁⟩ := opened_of_resetIfDue hreset
  obtain ⟨hopen₂, hver₂⟩ := opened_of_issueIn hissue
  exact ⟨hopen₂.trans hopen₁, Int.lt_of_le_of_lt hver₁ hver₂⟩

end Inside

/-! ## Performing work -/

namespace Store

/-- The store in which edited work has taken the place of the row. -/
def settle (s : Store) (row : Sequence) (done : Edited) : Except Failure Store :=
  (s.replaceRow row done.row).map (·.appendEach done.entries)

/-- Work on the row of a key, done by one client alone. -/
def perform (key : Key) (work : Work) (s : Store) : Except Failure Answer × Store :=
  match s.backing with
  | .unreachable seconds => (.error (.storage (.unavailable seconds)), s)
  | .memory =>
    if s.isBusy key then
      (.error (.storage (.lockTimeout key.1 key.2 (s.lockOf key).2.timeout)), s.timedOut key)
    else
      match s.row? key with
      | none => (.error (.sequenceNotFound key.1 key.2), (s.lockOf key).2)
      | some row =>
        match work s.clock s.entries row with
        | .error e => (.error e, (s.lockOf key).2)
        | .ok done =>
          match (s.lockOf key).2.settle row done with
          | .error e => (.error e, (s.lockOf key).2)
          | .ok s' => (.ok done.answer, s')

/-- A transaction that changes its row is work on that row. -/
theorem perform_of_transaction {body : Transaction → StoreM (α × Transaction)}
    {inside : Inside α} (hbody : Reads body inside) (hchanges : inside.Changes)
    (answer : α → Sequence → Answer) (key : Key) (s : Store) :
    perform key (inside.work answer) s = match transaction key body s with
      | (.ok (a, tx), s') => (.ok (answer a tx.current), s')
      | (.error e, s') => (.error e, s') := by
  rw [transaction_apply hbody]
  unfold perform Inside.work
  cases s.backing with
  | unreachable seconds => rfl
  | memory =>
    by_cases hbusy : s.isBusy key
    · simp only [hbusy, if_true]
    · simp only [hbusy, Bool.false_eq_true, if_false]
      cases s.row? key with
      | none => rfl
      | some row =>
        rcases hw : inside s.clock s.entries (.start row) with e | ⟨a, tx⟩
        · simp only [hw, Except.error_bind]
        · obtain ⟨hopen, hver⟩ := hchanges hw
          -- The version has grown, so the commit replaces the row.
          have hdirty : tx.isDirty = true := by
            have hne : tx.current.version ≠ tx.opened.version := by
              rw [hopen]
              exact Int.ne_of_gt hver
            simpa [Transaction.isDirty] using hne
          have hsettle : (s.lockOf key).2.committed tx =
              (s.lockOf key).2.settle row ⟨tx.current, tx.pending, answer a tx.current⟩ := by
            unfold committed settle
            rw [if_pos hdirty, hopen]
            rfl
          simp only [hw, Except.ok_bind, hsettle, pure, Except.pure]
          cases (s.lockOf key).2.settle row ⟨tx.current, tx.pending, answer a tx.current⟩ <;> rfl

end Store

/-! ## Edits -/

/-- The operations that change one row under its lock. -/
inductive Edit where
  /-- Counts a row up. -/
  | increment (key : Key) (now : Option Moment)
  /-- Issues the next number of a sequence. -/
  | generate (row : Sequence) (c : Context) (causer : Value) (now : Option Moment)
  /-- Resets a sequence for a reason, or for the usual one. -/
  | reset (row : Sequence) (reason causer : Value) (now : Option Moment)
  /-- Sets the counter unless that leads to a number that was issued before. -/
  | override (row : Sequence) (value : Int) (reason causer : Value) (now : Option Moment)
  /-- Resets a row. -/
  | resetRow (key : Key) (reason causer : Value) (now : Option Moment)
  /-- Sets the counter of a row. -/
  | overrideRow (key : Key) (value : Int) (reason causer : Value) (now : Option Moment)
  /-- Changes fields of the configuration. -/
  | update (key : Key) (expected : Option Int) (changes : List (String × Value))

namespace Issuer

/-- What is answered when a number was issued. -/
def issued (number : String) (reason : Option String) (row : Sequence) (now : Moment) : Issued where
  number := number
  counter := row.current
  issuedAt := now
  metadata :=
    [("sequence_id", Sequence.wholeOrNone row.id), ("reset_performed", .truth reason.isSome),
     ("is_preview", .truth false)]

/-- The log does not have the number after the current one. -/
def unissued (i : Issuer) (now : Moment) (log : List LogEntry) (row : Sequence) :
    Except Failure Unit := do
  let found ← (← i.issuedFilter row now).apply log
  match found with
  | [] => return ()
  | e :: _ =>
    let number ← issuedBefore row e
    .error (.duplicateNumber row.tenant row.name number)

theorem ensureUnissued_apply (i : Issuer) (now : Moment) (row : Sequence) {s : Store}
    (hm : s.backing = .memory) :
    i.ensureUnissued now row s = (i.unissued now s.entries row, s) := by
  unfold ensureUnissued unissued Store.findLogs
  simp only [StoreM.bind_apply, StoreM.ofExcept_apply, StoreM.get_apply]
  rcases i.issuedFilter row now with e | f
  · rfl
  · simp only [Except.ok_bind, Store.connect_memory hm]
    rcases f.apply s.entries with e | found
    · rfl
    · cases found with
      | nil => rfl
      | cons e _ =>
        simp only [Except.ok_bind, StoreM.bind_apply, StoreM.ofExcept_apply]
        cases issuedBefore row e <;> rfl

end Issuer

/-- The work of a change of configuration. -/
def Edit.updateWork (key : Key) (expected : Option Int) (changes : List (String × Value)) : Work :=
  fun clock _ row => do
    match expected with
    | some version =>
      if row.version != version then
        throw (.storage (.versionMismatch key.2 row.version version))
    | none => pure ()
    let updated ← row.changed changes clock
    return ⟨updated, [], .row updated⟩

namespace Edit

open Store Inside

variable {i : Issuer}

/-- The key of the row that is changed. -/
def key : Edit → Key
  | increment key _ | resetRow key _ _ _ | overrideRow key _ _ _ _ | update key _ _ => key
  | generate row _ _ _ | reset row _ _ _ | override row _ _ _ _ => row.key

def rowAnswer (_ : Unit) (row : Sequence) : Answer := .row row

/-- What is done before the lock is taken, at the time given; it leaves the work to be done
    under the lock. -/
def prepare (i : Issuer) (begun : Moment) : Edit → Except Failure Work
  | increment _ now => .ok ((Inside.increment now).work rowAnswer)
  | generate row c causer now => do
    let t ← i.checkedTemplate row.pattern
    let stamp := now.getD begun
    return (issue i t c causer stamp).work fun (number, reason) row =>
      .number (Issuer.issued number reason row stamp)
  | reset _ reason causer now =>
    .ok ((Inside.reset (Issuer.reasonOr reason "manual reset") causer (now.getD begun)).work
      rowAnswer)
  | override _ value reason causer now =>
    let stamp := now.getD begun
    .ok ((Inside.override value reason causer stamp (i.unissued stamp)).work rowAnswer)
  | resetRow _ reason causer now => .ok ((Inside.reset reason causer (now.getD begun)).work rowAnswer)
  | overrideRow _ value reason causer now =>
    .ok ((Inside.override value reason causer (now.getD begun) fun _ _ => .ok ()).work rowAnswer)
  | update key expected changes => .ok (updateWork key expected changes)

/-- Issuing is prepared by checking the pattern that the caller knows. -/
theorem prepare_generate_eq_ok {row : Sequence} {c : Context} {causer : Value}
    {now : Option Moment} {begun : Moment} {work : Work}
    (h : (generate row c causer now).prepare i begun = .ok work) :
    ∃ t, i.checkedTemplate row.pattern = .ok t ∧
      work = (issue i t c causer (now.getD begun)).work fun (number, reason) row =>
        .number (Issuer.issued number reason row (now.getD begun)) := by
  obtain ⟨t, ht, h⟩ := Except.bind_eq_ok.mp h
  exact ⟨t, ht, (Except.ok.inj h).symm⟩

/-- The edit, as the engine runs it. -/
def run (i : Issuer) : Edit → StoreM Answer
  | increment key now => .row <$> Store.increment key now
  | generate row c causer now => .number <$> i.generate row c causer now
  | reset row reason causer now => .row <$> Issuer.reset row reason causer now
  | override row value reason causer now => .row <$> i.override row value reason causer now
  | resetRow key reason causer now => .row <$> Store.reset key reason causer now
  | overrideRow key value reason causer now =>
    .row <$> Store.override key value reason causer now fun _ => pure ()
  | update key expected changes => .row <$> Store.update key expected changes

/-- The edit as preparation and work. -/
def perform (i : Issuer) (e : Edit) (s : Store) : Except Failure Answer × Store :=
  match e.prepare i s.clock with
  | .error failure => (.error failure, s)
  | .ok work => s.perform e.key work

theorem perform_of_error {e : Edit} {s : Store} {failure : Failure}
    (h : e.prepare i s.clock = .error failure) : e.perform i s = (.error failure, s) := by
  unfold perform
  rw [h]

theorem perform_of_ok {e : Edit} {s : Store} {work : Work} (h : e.prepare i s.clock = .ok work) :
    e.perform i s = s.perform e.key work := by
  unfold perform
  rw [h]

/-- Two runs with the same outcome, which leave the same store but for notes. -/
def Alike (x y : Except Failure α × Store) : Prop :=
  x.1 = y.1 ∧ x.2.quiet = y.2.quiet

/-! ### The bodies of transactions -/

theorem reads_increment (now : Option Moment) :
    Reads (fun tx => do return ((), tx.increment (← timeOr now))) (Inside.increment now) := by
  intro s tx _
  simp only [StoreM.bind_apply, timeOr_apply, StoreM.pure_apply]
  rfl

theorem reads_reset (reason causer : Value) (stamp : Moment) :
    Reads (fun tx => do
      let entry ← StoreM.ofExcept (LogEntry.reset (tx.reset stamp).current reason causer stamp)
      return ((), (tx.reset stamp).log entry)) (Inside.reset reason causer stamp) := by
  intro s tx _
  simp only [StoreM.bind_apply, StoreM.ofExcept_apply, Inside.reset]
  rcases LogEntry.reset (tx.reset stamp).current reason causer stamp with e | entry <;> rfl

theorem reads_override (value : Int) (reason causer : Value) (stamp : Moment)
    {check : Sequence → StoreM Unit} {look : List LogEntry → Sequence → Except Failure Unit}
    (hcheck : ∀ row s, s.backing = .memory → check row s = (look s.entries row, s)) :
    Reads (fun tx => do
      let tx ← StoreM.ofExcept (tx.override value stamp)
      check tx.current
      let entry ← StoreM.ofExcept
        (LogEntry.about tx.current .overridden "" value [] reason causer stamp)
      return ((), tx.log entry)) (Inside.override value reason causer stamp look) := by
  intro s tx hm
  simp only [StoreM.bind_apply, StoreM.ofExcept_apply, Inside.override]
  rcases tx.override value stamp with e | tx₁
  · rfl
  · simp only [Except.ok_bind, hcheck _ _ hm]
    rcases look s.entries tx₁.current with e | _
    · rfl
    · simp only [Except.ok_bind]
      rcases LogEntry.about tx₁.current .overridden "" value [] reason causer stamp <;> rfl

theorem reads_issue (i : Issuer) (t : Template) (c : Context) (causer : Value) (now : Moment) :
    Reads (fun tx => StoreM.ofExcept (i.issueStep t tx c causer now)) (issue i t c causer now) :=
  fun _ _ _ => rfl

/-! ### Running is performing -/

theorem Alike.of_eq {x y : Except Failure α × Store} (h : x = y) : Alike x y :=
  h ▸ ⟨rfl, rfl⟩

theorem alike_increment (key : Key) (now : Option Moment) (s : Store) :
    Alike ((increment key now).run i s) ((increment key now).perform i s) := by
  apply Alike.of_eq
  have hperform := perform_of_transaction (reads_increment now) (changes_increment now) rowAnswer
    key s
  simp only [run, perform, prepare, Edit.key, hperform, Store.increment, StoreM.map_apply,
    StoreM.bind_apply]
  rcases transaction key _ s with ⟨e | ⟨_, tx⟩, s'⟩ <;> rfl

/-- Resetting a row is resetting work. -/
theorem reset_apply (key : Key) (reason causer : Value) (now : Option Moment) (s : Store) :
    (Answer.row <$> Store.reset key reason causer now) s =
      s.perform key ((Inside.reset reason causer (now.getD s.clock)).work rowAnswer) := by
  have hperform := perform_of_transaction (reads_reset reason causer (now.getD s.clock))
    (changes_reset _ _ _) rowAnswer key s
  simp only [hperform, Store.reset, StoreM.map_apply, StoreM.bind_apply, timeOr_apply]
  rcases transaction key _ s with ⟨e | ⟨_, tx⟩, s'⟩ <;> rfl

/-- Overriding a row is overriding work. -/
theorem override_apply (key : Key) (value : Int) (reason causer : Value) (now : Option Moment)
    {check : Sequence → StoreM Unit} {look : List LogEntry → Sequence → Except Failure Unit}
    (hcheck : ∀ row s, s.backing = .memory → check row s = (look s.entries row, s)) (s : Store) :
    (Answer.row <$> Store.override key value reason causer now check) s =
      s.perform key ((Inside.override value reason causer (now.getD s.clock) look).work
        rowAnswer) := by
  have hperform := perform_of_transaction
    (reads_override value reason causer (now.getD s.clock) hcheck) (changes_override _ _ _ _ _)
    rowAnswer key s
  simp only [hperform, Store.override, StoreM.map_apply, StoreM.bind_apply, timeOr_apply]
  rcases transaction key _ s with ⟨e | ⟨_, tx⟩, s'⟩ <;> rfl

theorem alike_reset (row : Sequence) (reason causer : Value) (now : Option Moment) (s : Store) :
    Alike ((reset row reason causer now).run i s) ((reset row reason causer now).perform i s) := by
  have happly := reset_apply row.key (Issuer.reasonOr reason "manual reset") causer
    (some (now.getD s.clock)) s
  rw [Option.getD_some] at happly
  simp only [run, perform, prepare, Edit.key, ← happly, Issuer.reset, StoreM.map_apply,
    StoreM.bind_apply, timeOr_apply]
  -- The note comes after the transaction, and `Alike` leaves notes out.
  rcases Store.reset row.key (Issuer.reasonOr reason "manual reset") causer
    (some (now.getD s.clock)) s with ⟨e | updated, s'⟩
  · exact ⟨rfl, rfl⟩
  · exact ⟨rfl, rfl⟩

theorem alike_override (row : Sequence) (value : Int) (reason causer : Value)
    (now : Option Moment) (s : Store) :
    Alike ((override row value reason causer now).run i s)
      ((override row value reason causer now).perform i s) := by
  -- The number is looked for under the lock, in the log as it is then.
  have hcheck (r : Sequence) (t : Store) (hm : t.backing = .memory) :
      i.ensureUnissued (now.getD s.clock) r t = (i.unissued (now.getD s.clock) t.entries r, t) :=
    i.ensureUnissued_apply (now.getD s.clock) r hm
  have happly := override_apply row.key value reason causer (some (now.getD s.clock)) hcheck s
  rw [Option.getD_some] at happly
  simp only [run, perform, prepare, Edit.key, ← happly, Issuer.override, StoreM.map_apply,
    StoreM.bind_apply, timeOr_apply]
  rcases Store.override row.key value reason causer (some (now.getD s.clock))
    (i.ensureUnissued (now.getD s.clock)) s with ⟨e | updated, s'⟩
  · exact ⟨rfl, rfl⟩
  · exact ⟨rfl, rfl⟩

theorem alike_generate (row : Sequence) (c : Context) (causer : Value) (now : Option Moment)
    (s : Store) :
    Alike ((generate row c causer now).run i s) ((generate row c causer now).perform i s) := by
  simp only [run, perform, prepare, Edit.key, Issuer.generate, StoreM.map_apply,
    StoreM.bind_apply, timeOr_apply, StoreM.ofExcept_apply]
  rcases i.checkedTemplate row.pattern with e | t
  · exact ⟨rfl, rfl⟩
  · have hperform := perform_of_transaction (reads_issue i t c causer (now.getD s.clock))
      (changes_issue _ _ _ _ _)
      (fun p row => .number (Issuer.issued p.1 p.2 row (now.getD s.clock))) row.key s
    simp only [Except.ok_bind, pure, Except.pure, hperform]
    rcases transaction row.key (fun tx => StoreM.ofExcept (i.issueStep t tx c causer
      (now.getD s.clock))) s with ⟨e | ⟨⟨number, reason⟩, tx⟩, s'⟩
    · exact ⟨rfl, rfl⟩
    · cases reason <;> exact ⟨rfl, rfl⟩

/-- The configuration of a row that was read under its lock is changed as work on the row. -/
theorem changed_apply (key : Key) (row : Sequence) (changes : List (String × Value))
    (s : Store) :
    (do let updated ← StoreM.ofExcept (row.changed changes (← get).clock)
        replace row updated : StoreM Sequence) (s.entered key) =
      match row.changed changes s.clock with
      | .error e => (.error e, s.entered key)
      | .ok updated =>
        match (s.lockOf key).2.settle row ⟨updated, [], .row updated⟩ with
        | .error e => (.error e, s.entered key)
        | .ok s' => (.ok updated, s'.hold (s.lockOf key).1) := by
  simp only [StoreM.bind_apply, StoreM.get_apply, StoreM.ofExcept_apply, entered_clock]
  rcases row.changed changes s.clock with e | updated
  · rfl
  · have hreplace : (s.entered key).replaceRow row updated =
        ((s.lockOf key).2.replaceRow row updated).map (·.hold (s.lockOf key).1) :=
      replaceRow_hold _ _ _ _
    simp only [replace, StoreM.bind_apply, StoreM.attempt_apply, hreplace, settle]
    rcases (s.lockOf key).2.replaceRow row updated with e | s'
    · rfl
    · simp only [Except.map, appendEach_nil]
      rfl

theorem alike_update (key : Key) (expected : Option Int) (changes : List (String × Value))
    (s : Store) :
    Alike ((update key expected changes).run i s) ((update key expected changes).perform i s) := by
  apply Alike.of_eq
  simp only [run, perform, prepare, Edit.key, Store.update, map_locked]
  rw [locked_apply]
  unfold Store.perform
  cases hb : s.backing with
  | unreachable seconds => rfl
  | memory =>
    by_cases hbusy : s.isBusy key
    · simp only [hbusy, if_true]
    · have hmem : (s.entered key).backing = .memory := by rw [entered_backing, hb]
      simp only [hbusy, Bool.false_eq_true, if_false, StoreM.map_apply, StoreM.bind_apply,
        require_memory hmem, entered_row?]
      cases hrow : s.row? key with
      | none =>
        simp only [entered_release]
        rfl
      | some row =>
        cases expected with
        | none =>
          simp only [changed_apply, updateWork]
          rcases row.changed changes s.clock with e | updated
          · simp only [entered_release]
            rfl
          · simp only [Except.ok_bind, pure, Except.pure]
            rcases (s.lockOf key).2.settle row ⟨updated, [], .row updated⟩ with e | s'
            · simp only [entered_release, Except.map]
            · simp only [release_hold, Except.map]
        | some version =>
          -- The version is compared before anything is changed.
          by_cases hv : row.version != version
          · simp only [hv, if_true, StoreM.bind_apply, StoreM.throw_apply, updateWork,
              entered_release]
            rfl
          · simp only [hv, Bool.false_eq_true, if_false, changed_apply, updateWork]
            rcases row.changed changes s.clock with e | updated
            · simp only [entered_release]
              rfl
            · simp only [Except.ok_bind, pure, Except.pure]
              rcases (s.lockOf key).2.settle row ⟨updated, [], .row updated⟩ with e | s'
              · simp only [entered_release, Except.map]
              · simp only [release_hold, Except.map]

/-- Running an edit is performing its work, up to notes. -/
theorem run_alike (i : Issuer) (e : Edit) (s : Store) : Alike (e.run i s) (e.perform i s) := by
  cases e with
  | increment key now => exact alike_increment key now s
  | generate row c causer now => exact alike_generate row c causer now s
  | reset row reason causer now => exact alike_reset row reason causer now s
  | override row value reason causer now => exact alike_override row value reason causer now s
  | resetRow key reason causer now => exact .of_eq (reset_apply key reason causer now s)
  | overrideRow key value reason causer now =>
    have happly := @override_apply key value reason causer now (fun _ => pure ()) (fun _ _ => .ok ())
      (fun _ _ _ => rfl) s
    simp only [run, perform, prepare, Edit.key]
    exact .of_eq happly
  | update key expected changes => exact alike_update key expected changes s

end Edit

end SerialNumbers
