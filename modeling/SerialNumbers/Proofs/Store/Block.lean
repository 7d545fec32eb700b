/-
  SerialNumbers.Proofs.Store.Block

  Blocks: any calls on the handle of a transaction, after which the block is
  left, with a failure or without one.  Main statement: a block fails and
  leaves the records as they were, or the row is what its calls make of the row
  that was read, one after another, and its entries follow the log
  (`Store.block_cases`).
-/
import SerialNumbers.Proofs.Store.Effect

namespace SerialNumbers

open Time

/-! ## Blocks of calls -/

/-- A call on the handle of a transaction. -/
inductive Call where
  | increment (now : Option Moment)
  | reset (now : Option Moment)
  | override (value : Int) (now : Option Moment)
  | log (entry : LogEntry)

namespace Call

/-- Makes the call. -/
def act (tx : Transaction) : Call → StoreM Transaction
  | increment now => do return tx.increment (← Store.timeOr now)
  | reset now => do return tx.reset (← Store.timeOr now)
  | override value now => do StoreM.ofExcept (tx.override value (← Store.timeOr now))
  | log entry => return tx.log entry

/-- The call as a function of the clock. -/
def made (clock : Moment) (tx : Transaction) : Call → Except Failure Transaction
  | increment now => .ok (tx.increment (now.getD clock))
  | reset now => .ok (tx.reset (now.getD clock))
  | override value now => tx.override value (now.getD clock)
  | log entry => .ok (tx.log entry)

theorem act_apply (call : Call) (tx : Transaction) (s : Store) :
    call.act tx s = (call.made s.clock tx, s) := by
  cases call <;>
    simp only [act, StoreM.bind_apply, Store.timeOr_apply, StoreM.ofExcept_apply] <;> rfl

theorem foldlM_act_apply (calls : List Call) (tx : Transaction) (s : Store) :
    calls.foldlM (fun tx call => call.act tx) tx s =
      (calls.foldlM (fun tx call => call.made s.clock tx) tx, s) := by
  induction calls generalizing tx with
  | nil => rfl
  | cons call rest ih =>
    rw [List.foldlM_cons, List.foldlM_cons, StoreM.bind_apply, act_apply]
    cases call.made s.clock tx with
    | error e => rfl
    | ok tx' => exact ih tx'

/-- What the call makes of a row. -/
def change (clock : Moment) (row : Sequence) : Call → Sequence
  | increment now => row.counted (now.getD clock)
  | reset now => row.restarted (now.getD clock)
  | override value now => row.overridden value (now.getD clock)
  | log _ => row

/-- What the call writes to the log of the sequence with an id. -/
def written? (id : Option Int) : Call → Option LogEntry
  | log entry => some { entry with sequenceId := id.getD entry.sequenceId }
  | _ => none

/-- The call sets no negative value. -/
def isAllowed : Call → Bool
  | override value _ => 0 ≤ value
  | _ => true

theorem sameIdentity_change (clock : Moment) (row : Sequence) (call : Call) :
    row.SameIdentity (call.change clock row) := by
  cases call with
  | increment now => exact row.sameIdentity_counted _
  | reset now => exact row.sameIdentity_restarted _
  | override value now => exact row.sameIdentity_overridden value _
  | log entry => exact row.sameIdentity_refl

/-- A call changes the row and its version, or nothing about it. -/
theorem change_eq_or_lt (clock : Moment) (row : Sequence) (call : Call) :
    call.change clock row = row ∨ row.version < (call.change clock row).version := by
  cases call with
  | log entry => exact .inl rfl
  | _ => exact .inr (Int.lt_succ _)

theorem made_eq_ok {call : Call} (h : call.isAllowed = true) (clock : Moment) (tx : Transaction) :
    call.made clock tx = .ok { tx with
      current := call.change clock tx.current
      pending := tx.pending ++ (call.written? tx.current.id).toList } := by
  cases call with
  | increment now =>
    show Except.ok _ = Except.ok { tx with current := _, pending := tx.pending ++ [] }
    rw [List.append_nil]
    rfl
  | reset now =>
    show Except.ok _ = Except.ok { tx with current := _, pending := tx.pending ++ [] }
    rw [List.append_nil]
    rfl
  | override value now =>
    have hvalue : ¬ value < 0 := by simpa [isAllowed] using h
    show (if value < 0 then _ else _) = Except.ok { tx with current := _, pending := tx.pending ++ [] }
    rw [if_neg hvalue, List.append_nil]
    rfl
  | log entry => rfl

theorem made_eq_error {call : Call} (h : call.isAllowed = false) (clock : Moment)
    (tx : Transaction) : ∃ e, call.made clock tx = .error e := by
  cases call with
  | override value now =>
    have hvalue : value < 0 := by simpa [isAllowed] using h
    exact ⟨.value (.negativeCounter value), if_pos hvalue⟩
  | _ => cases h

/-- The row after calls. -/
def changes (clock : Moment) (row : Sequence) (calls : List Call) : Sequence :=
  calls.foldl (fun row call => call.change clock row) row

theorem sameIdentity_changes (clock : Moment) (row : Sequence) (calls : List Call) :
    row.SameIdentity (changes clock row calls) := by
  induction calls generalizing row with
  | nil => exact row.sameIdentity_refl
  | cons call rest ih => exact (sameIdentity_change clock row call).trans (ih _)

theorem changes_eq_or_lt (clock : Moment) (row : Sequence) (calls : List Call) :
    changes clock row calls = row ∨ row.version < (changes clock row calls).version := by
  induction calls generalizing row with
  | nil => exact .inl rfl
  | cons call rest ih =>
    have hcons : changes clock row (call :: rest) = changes clock (call.change clock row) rest := rfl
    rw [hcons]
    rcases change_eq_or_lt clock row call with hsame | hlt
    · rw [hsame]
      exact ih row
    · right
      rcases ih (call.change clock row) with hrest | hrest
      · rw [hrest]
        exact hlt
      · exact Int.lt_trans hlt hrest

/-- What calls write to the log of the sequence with an id. -/
def entries (id : Option Int) (calls : List Call) : List LogEntry :=
  calls.filterMap (written? id)

theorem foldlM_made_eq_ok {calls : List Call} (h : calls.all isAllowed = true) (clock : Moment)
    (tx : Transaction) :
    calls.foldlM (fun tx call => call.made clock tx) tx = .ok { tx with
      current := changes clock tx.current calls
      pending := tx.pending ++ entries tx.current.id calls } := by
  induction calls generalizing tx with
  | nil =>
    show Except.ok tx = Except.ok { tx with current := tx.current, pending := tx.pending ++ [] }
    rw [List.append_nil]
  | cons call rest ih =>
    rw [List.all_cons, Bool.and_eq_true] at h
    rw [List.foldlM_cons, made_eq_ok h.1, Except.ok_bind, ih h.2]
    -- No call changes the id, so all entries get the id of the row at first.
    have hid : (call.change clock tx.current).id = tx.current.id :=
      (sameIdentity_change clock tx.current call).id
    have hentries : (call.written? tx.current.id).toList ++ entries tx.current.id rest =
        entries tx.current.id (call :: rest) := by
      unfold entries
      rw [List.filterMap_cons]
      cases call.written? tx.current.id <;> rfl
    rw [← hentries, ← List.append_assoc]
    show Except.ok
      { tx with current := _, pending := _ ++ entries (call.change clock tx.current).id rest } = _
    rw [hid]
    rfl

theorem foldlM_made_eq_error {calls : List Call} (h : calls.all isAllowed = false) (clock : Moment)
    (tx : Transaction) : ∃ e, calls.foldlM (fun tx call => call.made clock tx) tx = .error e := by
  induction calls generalizing tx with
  | nil => cases h
  | cons call rest ih =>
    rw [List.foldlM_cons]
    cases hcall : call.isAllowed with
    | false =>
      obtain ⟨e, he⟩ := made_eq_error hcall clock tx
      exact ⟨e, by rw [he]; rfl⟩
    | true =>
      rw [List.all_cons, hcall, Bool.true_and] at h
      rw [made_eq_ok hcall]
      exact ih h _

end Call

/-- Does calls on the handle of a transaction, and then leaves the block, with a failure or
    without one. -/
def Store.block (key : Key) (calls : List Call) (leave : Option Failure) : StoreM Transaction := do
  let (_, tx) ← Store.transaction key fun tx => do
    let tx ← calls.foldlM (fun tx call => call.act tx) tx
    match leave with
    | some failure => throw failure
    | none => return ((), tx)
  return tx

namespace Inside

/-- The calls of a block and how it is left. -/
def block (calls : List Call) (leave : Option Failure) : Inside Unit := fun clock _ tx => do
  let tx ← calls.foldlM (fun tx call => call.made clock tx) tx
  match leave with
  | some failure => throw failure
  | none => return ((), tx)

end Inside

namespace Store

theorem reads_block (calls : List Call) (leave : Option Failure) :
    Reads (fun tx => do
      let tx ← calls.foldlM (fun tx call => call.act tx) tx
      match leave with
      | some failure => throw failure
      | none => return ((), tx)) (Inside.block calls leave) := by
  intro s tx _
  show (calls.foldlM (fun tx call => call.act tx) tx >>= _ : StoreM _) s = _
  rw [StoreM.bind_apply, Call.foldlM_act_apply]
  unfold Inside.block
  cases calls.foldlM (fun tx call => call.made s.clock tx) tx with
  | error e => rfl
  | ok tx' => cases leave <;> rfl

end Store

/-! ## Blocks on one row -/

namespace Store

/-- A block fails, or it is left without a failure after calls that are all allowed. -/
theorem inside_block_eq (calls : List Call) (leave : Option Failure) (clock : Moment)
    (log : List LogEntry) (row : Sequence) :
    (∃ failure, Inside.block calls leave clock log (.start row) = .error failure) ∧
        ¬ (leave = none ∧ calls.all Call.isAllowed = true) ∨
      leave = none ∧ calls.all Call.isAllowed = true ∧
        Inside.block calls leave clock log (.start row) = .ok ((), { Transaction.start row with
          current := Call.changes clock row calls, pending := Call.entries row.id calls }) := by
  unfold Inside.block
  cases hall : calls.all Call.isAllowed with
  | false =>
    obtain ⟨e, he⟩ := Call.foldlM_made_eq_error hall clock (.start row)
    rw [he]
    exact .inl ⟨⟨e, rfl⟩, fun h => nomatch h.2⟩
  | true =>
    rw [Call.foldlM_made_eq_ok hall]
    cases leave with
    | some failure => exact .inl ⟨⟨failure, rfl⟩, fun h => nomatch h.1⟩
    | none => exact .inr ⟨rfl, rfl, rfl⟩

/-- What a block comes to. -/
def blockDone (clock : Moment) (row : Sequence) (calls : List Call) : Edited :=
  ⟨Call.changes clock row calls, Call.entries row.id calls, .row (Call.changes clock row calls)⟩

/-- The calls of a block are committed as one, or there was nothing to replace. -/
theorem settled_of_committed {s s' : Store} {row : Sequence} {calls : List Call}
    (hkey : s.row? row.key = some row)
    (h : s.committed { Transaction.start row with
      current := Call.changes s.clock row calls, pending := Call.entries row.id calls } = .ok s') :
    s.Settled row.key (blockDone s.clock row calls) s' := by
  unfold committed at h
  split at h
  · have hsettle : s.settle row (blockDone s.clock row calls) = .ok s' := h
    exact settled_of_settle hsettle
  · rename_i hclean
    cases h
    -- A call that changes the row changes its version, so nothing was changed.
    have hsame : Call.changes s.clock row calls = row := by
      rcases Call.changes_eq_or_lt s.clock row calls with hsame | hlt
      · exact hsame
      · refine absurd ?_ hclean
        have hne : (Call.changes s.clock row calls).version ≠ row.version := Int.ne_of_gt hlt
        exact bne_iff_ne.mpr hne
    refine ⟨?_, rfl, rfl, (Int.add_zero _).symm, rfl, rfl⟩
    intro k
    show s.row? k = if k == row.key then some (Call.changes s.clock row calls) else s.row? k
    by_cases hk : k == row.key
    · rw [if_pos hk, hsame, eq_of_beq hk, hkey]
    · rw [if_neg hk]

/-- A block is a transaction of which only the handle is kept. -/
theorem block_apply (key : Key) (calls : List Call) (leave : Option Failure) (s : Store) :
    ∃ body, Reads body (Inside.block calls leave) ∧ block key calls leave s =
      ((transaction key body s).1.map (·.2), (transaction key body s).2) := by
  refine ⟨_, reads_block calls leave, ?_⟩
  unfold block
  rw [StoreM.bind_apply]
  rcases transaction key _ s with ⟨_ | _, _⟩ <;> rfl

/-- A block fails and leaves the records, or its calls are done as one on the row that is
    there. -/
theorem block_cases (key : Key) (calls : List Call) (leave : Option Failure) (s : Store) :
    (∃ failure, (block key calls leave s).1 = .error failure ∧
      SameRecords s (block key calls leave s).2) ∨
    ∃ row tx, leave = none ∧ calls.all Call.isAllowed = true ∧ s.row? key = some row ∧
      (block key calls leave s).1 = .ok tx ∧ tx.current = Call.changes s.clock row calls ∧
      (row.key = key →
        s.Settled key (blockDone s.clock row calls) (block key calls leave s).2) := by
  obtain ⟨body, hbody, hblock⟩ := block_apply key calls leave s
  rw [hblock]
  rcases transaction_cases hbody key s with ⟨failure, herr, hsame⟩ |
    ⟨row, a, tx, s', hrow, hwork, hcommit, hdone⟩
  · rw [herr]
    exact .inl ⟨failure, rfl, hsame⟩
  · rw [hdone]
    rcases inside_block_eq calls leave s.clock s.entries row with
      ⟨⟨failure, hfail⟩, -⟩ | ⟨hleave, hall, hinside⟩
    · rw [hfail] at hwork
      cases hwork
    · rw [hinside] at hwork
      cases hwork
      refine .inr ⟨row, _, hleave, hall, hrow, rfl, rfl, ?_⟩
      rintro rfl
      have hstored : (s.lockOf row.key).2.row? row.key = some row := by
        rw [lockOf_row?]
        exact hrow
      rw [← lockOf_clock s row.key] at hcommit
      have hsettled := (settled_of_committed hstored hcommit).of_lockOf
      rw [lockOf_clock] at hsettled
      exact hsettled

/-- A block that raises nothing is done when the lock is free and the row there. -/
theorem block_succeeds {s : Store} {key : Key} {calls : List Call} {row : Sequence}
    (hmemory : s.backing = .memory) (hfree : s.isBusy key = false) (hrow : s.row? key = some row)
    (hkey : row.key = key) (hcalls : calls.all Call.isAllowed = true) :
    ∃ tx, (block key calls none s).1 = .ok tx := by
  obtain ⟨body, hbody, hblock⟩ := block_apply key calls none s
  rcases inside_block_eq calls none s.clock s.entries row with
    ⟨-, hnot⟩ | ⟨-, -, hinside⟩
  · exact absurd ⟨rfl, hcalls⟩ hnot
  · obtain ⟨tx, htx⟩ := transaction_eq_ok hbody hmemory hfree hrow hinside rfl hkey
    rw [hblock, htx]
    exact ⟨tx, rfl⟩

end Store

end SerialNumbers
