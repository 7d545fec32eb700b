/-
  SerialNumbers.Proofs.Store.Operation

  All that can be done to a store: making a sequence, editing its row, taking
  it out, writing to the log, and blocks of calls.  An operation fails and
  leaves the records as they were, or it makes one change and no other
  (`Operation.run_cases`).
-/
import SerialNumbers.Proofs.Store.Block

namespace SerialNumbers

open Time

/-- What can be done to a store. -/
inductive Operation where
  /-- Makes a sequence of a draft. -/
  | create (d : Issuer.Draft) (now : Option Moment)
  /-- Puts a row in a free place. -/
  | insert (row : Sequence)
  | edit (e : Edit)
  /-- Takes a row out. -/
  | delete (key : Key)
  /-- Adds an entry to the log. -/
  | append (entry : LogEntry)
  /-- Does calls on the handle of a transaction and leaves it. -/
  | block (key : Key) (calls : List Call) (leave : Option Failure)

namespace Operation

/-- The operation, as the engine runs it. -/
def run (i : Issuer) : Operation → StoreM Answer
  | create d now => .row <$> i.create d now
  | insert row => .row <$> Store.create row
  | edit e => e.run i
  | delete key => .removed <$> Store.delete key
  | append entry => .entry <$> Store.appendLog entry
  | block key calls leave => (fun tx => .row tx.current) <$> Store.block key calls leave

/-! ## Making and taking out -/

/-- A row that gets an id. -/
def stored (s : Store) (row : Sequence) : Sequence := { row with id := some s.nextId }

theorem insert_cases (row : Sequence) (s : Store) :
    (∃ failure, (Store.create row s).1 = .error failure ∧
      s.SameRecords (Store.create row s).2) ∨
    (s.row? row.key = none ∧ (Store.create row s).1 = .ok (stored s row) ∧
      s.Changed row.key (some (stored s row)) [] 1 (Store.create row s).2) := by
  unfold Store.create
  cases hb : s.backing with
  | unreachable seconds =>
    simp only [StoreM.bind_apply, Store.connect_unreachable hb]
    exact .inl ⟨_, rfl, .refl s⟩
  | memory =>
    simp only [StoreM.bind_apply, Store.connect_memory hb, StoreM.attempt_apply]
    unfold Store.insertRow
    cases hrow : s.row? row.key with
    | some old => exact .inl ⟨_, rfl, .refl s⟩
    | none =>
      refine .inr ⟨rfl, rfl, ?_, (List.append_nil _).symm, (Int.add_zero _).symm, rfl, rfl, rfl⟩
      intro k
      exact Table.get?_insert s.rows row.key k _

theorem create_cases (i : Issuer) (d : Issuer.Draft) (now : Option Moment) (s : Store) :
    (∃ failure, (i.create d now s).1 = .error failure ∧ s.SameRecords (i.create d now s).2) ∨
    ∃ t row, i.checkedTemplate d.pattern = .ok t ∧ d.sequence (now.getD s.clock) = .ok row ∧
      s.row? row.key = none ∧ (i.create d now s).1 = .ok (stored s row) ∧
      s.Changed row.key (some (stored s row)) [] 1 (i.create d now s).2 := by
  unfold Issuer.create
  simp only [StoreM.bind_apply, StoreM.ofExcept_apply, Store.timeOr_apply]
  cases i.checkedTemplate d.pattern with
  | error e => exact .inl ⟨e, rfl, .refl s⟩
  | ok t =>
    dsimp only
    cases d.sequence (now.getD s.clock) with
    | error e => exact .inl ⟨e, rfl, .refl s⟩
    | ok row =>
      rcases insert_cases row s with hfail | hdone
      · exact .inl hfail
      · exact .inr ⟨t, row, rfl, rfl, hdone⟩

theorem changed_removeRow (s : Store) (key : Key) :
    s.Changed key none [] 0 (((s.entered key).removeRow key).release (s.lockOf key).1) := by
  refine Store.Changed.of_lockOf (k := key) ⟨?_, (List.append_nil _).symm, (Int.add_zero _).symm,
    (Int.add_zero _).symm, List.erase_cons_head _ _, rfl⟩
  intro k
  exact Store.row?_removeRow (s.entered key) key k

theorem delete_cases (key : Key) (s : Store) :
    (∃ failure, (Store.delete key s).1 = .error failure ∧
      s.SameRecords (Store.delete key s).2) ∨
    ((Store.delete key s).1 = .ok (s.row? key).isSome ∧
      s.Changed key none [] 0 (Store.delete key s).2) := by
  unfold Store.delete
  rw [StoreM.bind_apply, Store.locked_apply]
  cases s.backing with
  | unreachable seconds => exact .inl ⟨_, rfl, .refl s⟩
  | memory =>
    by_cases hbusy : s.isBusy key
    · simp only [hbusy, if_true]
      exact .inl ⟨_, rfl, Store.sameRecords_timedOut s key⟩
    · simp only [hbusy, Bool.false_eq_true, if_false, StoreM.step_apply, Store.entered_row?]
      have hremoved := changed_removeRow s key
      cases (s.row? key).isSome with
      | false => exact .inr ⟨rfl, hremoved⟩
      | true => exact .inr ⟨rfl, hremoved.of_quiet rfl⟩

theorem append_cases (entry : LogEntry) (s : Store) :
    (∃ failure, (Store.appendLog entry s).1 = .error failure ∧
      s.SameRecords (Store.appendLog entry s).2) ∨
    ((Store.appendLog entry s).1 = .ok { entry with id := some s.nextEntryId } ∧
      ∀ key, s.Changed key (s.row? key) [entry] 0 (Store.appendLog entry s).2) := by
  unfold Store.appendLog
  cases hb : s.backing with
  | unreachable seconds =>
    simp only [StoreM.bind_apply, Store.connect_unreachable hb]
    exact .inl ⟨_, rfl, .refl s⟩
  | memory =>
    simp only [StoreM.bind_apply, Store.connect_memory hb, StoreM.step_apply]
    refine .inr ⟨rfl, fun key => ⟨?_, rfl, rfl, (Int.add_zero _).symm, rfl, rfl⟩⟩
    intro k
    show s.row? k = if k == key then s.row? key else s.row? k
    split
    · rename_i hk
      rw [eq_of_beq hk]
    · rfl

/-! ## Every operation -/

/-- What an operation that succeeds does, and what it answers. -/
inductive Effect (i : Issuer) (s : Store) : Operation → Answer → Store → Prop where
  | create {d : Issuer.Draft} {now : Option Moment} {t : Template} {row : Sequence} {s' : Store}
      (checked : i.checkedTemplate d.pattern = .ok t)
      (drafted : d.sequence (now.getD s.clock) = .ok row) (free : s.row? row.key = none)
      (changed : s.Changed row.key (some (stored s row)) [] 1 s') :
      Effect i s (.create d now) (.row (stored s row)) s'
  | insert {row : Sequence} {s' : Store} (free : s.row? row.key = none)
      (changed : s.Changed row.key (some (stored s row)) [] 1 s') :
      Effect i s (.insert row) (.row (stored s row)) s'
  | edit {e : Edit} {row : Sequence} {done : Edited} {work : Work} {s' : Store}
      (prepared : e.prepare i s.clock = .ok work) (read : s.row? e.key = some row)
      (worked : work s.clock s.entries row = .ok done) (changed : s.Settled row.key done s') :
      Effect i s (.edit e) done.answer s'
  | delete {key : Key} {s' : Store} (changed : s.Changed key none [] 0 s') :
      Effect i s (.delete key) (.removed (s.row? key).isSome) s'
  | append {entry : LogEntry} {s' : Store}
      (changed : ∀ key, s.Changed key (s.row? key) [entry] 0 s') :
      Effect i s (.append entry) (.entry { entry with id := some s.nextEntryId }) s'
  | block {key : Key} {calls : List Call} {row : Sequence} {s' : Store}
      (allowed : calls.all Call.isAllowed = true) (read : s.row? key = some row)
      (changed : row.key = key → s.Settled key (Store.blockDone s.clock row calls) s') :
      Effect i s (.block key calls none) (Store.blockDone s.clock row calls).answer s'

/-- An operation fails and leaves the records as they were, or it has its effect. -/
theorem run_cases (i : Issuer) (op : Operation) (s : Store) :
    (∃ failure, (op.run i s).1 = .error failure ∧ s.SameRecords (op.run i s).2) ∨
    ∃ answer, (op.run i s).1 = .ok answer ∧ op.Effect i s answer (op.run i s).2 := by
  have hmap {α : Type} {g : α → Answer} {x : StoreM α} {failure : Failure}
      (h : (x s).1 = .error failure ∧ s.SameRecords (x s).2) :
      ((g <$> x) s).1 = .error failure ∧ s.SameRecords ((g <$> x) s).2 := by
    rw [StoreM.map_of_error h.1]
    exact ⟨rfl, h.2⟩
  cases op with
  | create d now =>
    rcases create_cases i d now s with ⟨failure, hfail⟩ | ⟨t, row, ht, hrow, hfree, hans, hdone⟩
    · exact .inl ⟨failure, hmap hfail⟩
    · have hrun : run i (create d now) s = (.ok (.row (stored s row)), (i.create d now s).2) :=
        StoreM.map_of_ok hans
      rw [hrun]
      exact .inr ⟨_, rfl, .create ht hrow hfree hdone⟩
  | insert row =>
    rcases insert_cases row s with ⟨failure, hfail⟩ | ⟨hfree, hans, hdone⟩
    · exact .inl ⟨failure, hmap hfail⟩
    · have hrun : run i (insert row) s = (.ok (.row (stored s row)), (Store.create row s).2) :=
        StoreM.map_of_ok hans
      rw [hrun]
      exact .inr ⟨_, rfl, .insert hfree hdone⟩
  | edit e =>
    rcases e.run_cases i s with hfail | ⟨work, row, done, hprepare, hrow, hwork, hans, hdone⟩
    · exact .inl hfail
    · exact .inr ⟨done.answer, hans, .edit hprepare hrow hwork hdone⟩
  | delete key =>
    rcases delete_cases key s with ⟨failure, hfail⟩ | ⟨hans, hdone⟩
    · exact .inl ⟨failure, hmap hfail⟩
    · have hrun : run i (delete key) s =
          (.ok (.removed (s.row? key).isSome), (Store.delete key s).2) := StoreM.map_of_ok hans
      rw [hrun]
      exact .inr ⟨_, rfl, .delete hdone⟩
  | append entry =>
    rcases append_cases entry s with ⟨failure, hfail⟩ | ⟨hans, hdone⟩
    · exact .inl ⟨failure, hmap hfail⟩
    · have hrun : run i (append entry) s = (.ok (.entry { entry with id := some s.nextEntryId }),
          (Store.appendLog entry s).2) := StoreM.map_of_ok hans
      rw [hrun]
      exact .inr ⟨_, rfl, .append hdone⟩
  | block key calls leave =>
    rcases Store.block_cases key calls leave s with
      ⟨failure, hfail⟩ | ⟨row, tx, rfl, hall, hrow, hans, hcurrent, hdone⟩
    · exact .inl ⟨failure, hmap hfail⟩
    · have hrun : run i (block key calls none) s =
          (.ok (.row tx.current), (Store.block key calls none s).2) := StoreM.map_of_ok hans
      rw [hrun, hcurrent]
      exact .inr ⟨_, rfl, .block hall hrow hdone⟩

theorem run_error {i : Issuer} {op : Operation} {s : Store} {failure : Failure}
    (h : (op.run i s).1 = .error failure) : s.SameRecords (op.run i s).2 := by
  rcases op.run_cases i s with ⟨_, _, hsame⟩ | ⟨answer, hans, _⟩
  · exact hsame
  · rw [hans] at h
    cases h

end Operation

end SerialNumbers
