/-
  SerialNumbers.Proofs.Store.Effect

  What is left in the store when an edit was run.  Main statement: an edit
  fails and leaves the records as they were, or its work was done on the row
  that is there, and the new row and the entries are all that changed
  (`Edit.run_cases`).
-/
import SerialNumbers.Proofs.Store.Work

namespace SerialNumbers

open Time

/-! ## What is left when something was done -/

/-- The store after a change under a key: the place of the key holds a row or none, entries
    follow the log under the next numbers, ids were given out, and all else is as it was. -/
structure Store.Changed (s : Store) (key : Key) (row : Option Sequence) (added : List LogEntry)
    (made : Nat) (s' : Store) : Prop where
  row? : ∀ k, s'.row? k = if k == key then row else s.row? k
  entries : s'.entries = s.entries ++ Store.numbered s.nextEntryId added
  nextEntryId : s'.nextEntryId = s.nextEntryId + added.length
  nextId : s'.nextId = s.nextId + made
  held : s'.held = s.held
  backing : s'.backing = s.backing

/-- The store after work on the row of a key. -/
abbrev Store.Settled (s : Store) (key : Key) (done : Edited) (s' : Store) : Prop :=
  s.Changed key (some done.row) done.entries 0 s'

namespace Store

/-- What is said of a change is said of records only, before it and after it. -/
theorem Changed.of_sameRecords {s s₁ t t₁ : Store} {key : Key} {row : Option Sequence}
    {added : List LogEntry} {made : Nat} (h : s₁.Changed key row added made t)
    (hbefore : SameRecords s s₁) (hafter : SameRecords t t₁) :
    s.Changed key row added made t₁ := by
  refine ⟨?_, ?_, ?_, ?_, ?_, ?_⟩
  · intro k
    rw [hafter.row?, h.row?, hbefore.row?]
  · rw [hafter.entries, h.entries, hbefore.entries, hbefore.nextEntryId]
  · rw [hafter.nextEntryId, h.nextEntryId, hbefore.nextEntryId]
  · rw [hafter.nextId, h.nextId, hbefore.nextId]
  · rw [hafter.held, h.held, hbefore.held]
  · rw [hafter.backing, h.backing, hbefore.backing]

/-- What is said of a change does not depend on the notes. -/
theorem Changed.of_quiet {s s' t : Store} {key : Key} {row : Option Sequence}
    {added : List LogEntry} {made : Nat} (h : s.Changed key row added made s')
    (hq : t.quiet = s'.quiet) : s.Changed key row added made t :=
  h.of_sameRecords (.refl s) (sameRecords_of_quiet hq)

/-- Where no record has changed, the row of any key is the one that it was. -/
theorem SameRecords.changed {s s' : Store} (h : s.SameRecords s') (key : Key) :
    s.Changed key (s.row? key) [] 0 s' := by
  refine ⟨?_, h.entries.trans (List.append_nil _).symm, ?_, ?_, h.held, h.backing⟩
  · intro k
    rw [h.row?]
    split
    · rename_i hk
      rw [eq_of_beq hk]
    · rfl
  · rw [h.nextEntryId, List.length_nil, Int.natCast_zero, Int.add_zero]
  · rw [h.nextId, Int.natCast_zero, Int.add_zero]

/-- Looking up a lock first is no matter to what is left. -/
theorem Changed.of_lockOf {s s' : Store} {key k : Key} {row : Option Sequence}
    {added : List LogEntry} {made : Nat} (h : (s.lockOf k).2.Changed key row added made s') :
    s.Changed key row added made s' :=
  h.of_sameRecords (sameRecords_lockOf s k) (.refl s')

theorem settled_insert {s : Store} (key : Key) (done : Edited) :
    s.Settled key done
      ({ s with rows := s.rows.insert key done.row }.appendEach done.entries) := by
  refine ⟨?_, rfl, rfl, (Int.add_zero _).symm, rfl, rfl⟩
  intro k
  exact Table.get?_insert s.rows key k done.row

/-- Work is settled by putting its row in the place of the old one and writing its entries. -/
theorem eq_of_settle {s s' : Store} {row : Sequence} {done : Edited}
    (h : s.settle row done = .ok s') :
    s' = { s with rows := s.rows.insert row.key done.row }.appendEach done.entries := by
  unfold settle at h
  cases hreplace : s.replaceRow row done.row with
  | error e =>
    rw [hreplace] at h
    cases h
  | ok s₁ =>
    rw [hreplace] at h
    cases h
    obtain ⟨_, -, -, rfl⟩ := replaceRow_eq_ok.mp hreplace
    rfl

theorem settled_of_settle {s s' : Store} {row : Sequence} {done : Edited}
    (h : s.settle row done = .ok s') : s.Settled row.key done s' := by
  rw [eq_of_settle h]
  exact settled_insert row.key done

/-- The stores that work can leave: the one that was there, with a note or with the lock made, or
    one in which the work has been settled. -/
theorem perform_store_cases (key : Key) (work : Work) (s : Store) :
    (s.perform key work).2 = s ∨ (s.perform key work).2 = s.timedOut key ∨
      (s.perform key work).2 = (s.lockOf key).2 ∨
      ∃ row done, (s.lockOf key).2.settle row done = .ok (s.perform key work).2 := by
  unfold perform
  cases s.backing with
  | unreachable seconds => exact .inl rfl
  | memory =>
    dsimp only
    by_cases hbusy : s.isBusy key
    · rw [if_pos hbusy]
      exact .inr (.inl rfl)
    · rw [if_neg hbusy]
      cases s.row? key with
      | none => exact .inr (.inr (.inl rfl))
      | some row =>
        dsimp only
        cases work s.clock s.entries row with
        | error e => exact .inr (.inr (.inl rfl))
        | ok done =>
          dsimp only
          cases hsettle : (s.lockOf key).2.settle row done with
          | error e => exact .inr (.inr (.inl rfl))
          | ok s' => exact .inr (.inr (.inr ⟨row, done, hsettle⟩))

/-- Work that one client performs alone fails and leaves the records, or succeeds on the row
    that is there. -/
theorem perform_cases (key : Key) (work : Work) (s : Store) :
    (∃ failure, (s.perform key work).1 = .error failure ∧
      SameRecords s (s.perform key work).2) ∨
    ∃ row done, s.row? key = some row ∧ work s.clock s.entries row = .ok done ∧
      (s.perform key work).1 = .ok done.answer ∧
      s.Settled row.key done (s.perform key work).2 := by
  unfold perform
  cases s.backing with
  | unreachable seconds => exact .inl ⟨_, rfl, .refl s⟩
  | memory =>
    by_cases hbusy : s.isBusy key
    · simp only [hbusy, if_true]
      exact .inl ⟨_, rfl, sameRecords_timedOut s key⟩
    · simp only [hbusy, Bool.false_eq_true, if_false]
      cases hrow : s.row? key with
      | none => exact .inl ⟨_, rfl, sameRecords_lockOf s key⟩
      | some row =>
        dsimp only
        cases hwork : work s.clock s.entries row with
        | error e => exact .inl ⟨_, rfl, sameRecords_lockOf s key⟩
        | ok done =>
          dsimp only
          cases hsettle : (s.lockOf key).2.settle row done with
          | error e => exact .inl ⟨_, rfl, sameRecords_lockOf s key⟩
          | ok s' =>
            exact .inr ⟨row, done, rfl, hwork, rfl, (settled_of_settle hsettle).of_lockOf⟩

/-- Work that succeeds is done when the lock is free. -/
theorem perform_eq_ok {key : Key} {work : Work} {s : Store} {row : Sequence} {done : Edited}
    (hmemory : s.backing = .memory) (hfree : s.isBusy key = false) (hrow : s.row? key = some row)
    (hkey : row.key = key) (hwork : work s.clock s.entries row = .ok done) :
    (s.perform key work).1 = .ok done.answer := by
  -- The row is as it was read, so its version is right.
  have hstored : (s.lockOf key).2.row? row.key = some row := by
    rw [lockOf_row?, hkey]
    exact hrow
  unfold perform
  rw [hmemory]
  simp only [hfree, Bool.false_eq_true, if_false, hrow, hwork]
  unfold settle
  rw [replaceRow_eq_ok.mpr ⟨row, hstored, rfl, rfl⟩]
  rfl

/-- What work on a row that is there comes to is what is answered when the lock is free. -/
theorem perform_answer {key : Key} {work : Work} {s : Store} {row : Sequence}
    (hmemory : s.backing = .memory) (hfree : s.isBusy key = false) (hrow : s.row? key = some row)
    (hkey : row.key = key) :
    (s.perform key work).1 = (work s.clock s.entries row).map (·.answer) := by
  cases hwork : work s.clock s.entries row with
  | ok done => exact perform_eq_ok hmemory hfree hrow hkey hwork
  | error failure =>
    unfold perform
    rw [hmemory]
    simp only [hfree, Bool.false_eq_true, if_false, hrow, hwork]
    rfl

end Store

/-- An edit fails and leaves the records, or it was prepared and its work was done on the row
    that is there. -/
theorem Edit.run_cases (i : Issuer) (e : Edit) (s : Store) :
    (∃ failure, (e.run i s).1 = .error failure ∧ s.SameRecords (e.run i s).2) ∨
    ∃ work row done, e.prepare i s.clock = .ok work ∧ s.row? e.key = some row ∧
      work s.clock s.entries row = .ok done ∧ (e.run i s).1 = .ok done.answer ∧
      s.Settled row.key done (e.run i s).2 := by
  have halike := e.run_alike i s
  -- The run differs from the work of one client alone by notes only.
  cases hprepare : e.prepare i s.clock with
  | error failure =>
    rw [e.perform_of_error hprepare] at halike
    exact .inl ⟨failure, halike.1, Store.sameRecords_of_quiet halike.2⟩
  | ok work =>
    rw [e.perform_of_ok hprepare] at halike
    rcases Store.perform_cases e.key work s with ⟨failure, herr, hsame⟩ |
      ⟨row, done, hrow, hwork, hans, hsettled⟩
    · exact .inl ⟨failure, halike.1.trans herr, hsame.trans (Store.sameRecords_of_quiet halike.2)⟩
    · exact .inr ⟨work, row, done, rfl, hrow, hwork, halike.1.trans hans,
        hsettled.of_quiet halike.2⟩

/-- What an edit answers when the lock is free: the failure of its preparation or of its work on
    the row that is there, or what its work comes to. -/
theorem Edit.run_answer {i : Issuer} {e : Edit} {s : Store} {row : Sequence}
    (hmemory : s.backing = .memory) (hfree : s.isBusy e.key = false)
    (hrow : s.row? e.key = some row) (hkey : row.key = e.key) :
    (e.run i s).1 = do
      let work ← e.prepare i s.clock
      let done ← work s.clock s.entries row
      return done.answer := by
  rw [(e.run_alike i s).1]
  cases hprepare : e.prepare i s.clock with
  | error failure => rw [e.perform_of_error hprepare]; rfl
  | ok work =>
    rw [e.perform_of_ok hprepare, Store.perform_answer hmemory hfree hrow hkey]
    show _ = work s.clock s.entries row >>= fun done => .ok done.answer
    cases work s.clock s.entries row <;> rfl

/-- An edit whose work succeeds on the row that is there is done when the lock is free. -/
theorem Edit.run_eq_ok {i : Issuer} {e : Edit} {s : Store} {work : Work} {row : Sequence}
    {done : Edited} (hmemory : s.backing = .memory) (hfree : s.isBusy e.key = false)
    (hrow : s.row? e.key = some row) (hkey : row.key = e.key)
    (hprepare : e.prepare i s.clock = .ok work) (hwork : work s.clock s.entries row = .ok done) :
    (e.run i s).1 = .ok done.answer ∧ s.Settled row.key done (e.run i s).2 := by
  have hperformed : (e.perform i s).1 = .ok done.answer := by
    rw [e.perform_of_ok hprepare]
    exact Store.perform_eq_ok hmemory hfree hrow hkey hwork
  have hans := (e.run_alike i s).1.trans hperformed
  -- It has not failed, and there is one work on one row that it can have done.
  rcases e.run_cases i s with
    ⟨failure, herr, -⟩ | ⟨work', row', done', hprepare', hrow', hwork', -, hsettled⟩
  · rw [hans] at herr
    cases herr
  · rw [hprepare] at hprepare'
    rw [hrow] at hrow'
    cases hprepare'
    cases hrow'
    rw [hwork] at hwork'
    cases hwork'
    exact ⟨hans, hsettled⟩

end SerialNumbers
