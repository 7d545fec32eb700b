/-
  SerialNumbers.Proofs.Store.Atomic

  All or nothing.  Whatever raises, and wherever it raises, nothing of it is
  left in rows, log and counters, and no lock is held.  What is done in a block
  that raises nothing is done as a whole: the row is the left fold of the calls
  over the row that was read, and the entries follow the log in the order of
  their calls (`Store.Reachable.all_or_nothing`).
-/
import SerialNumbers.Proofs.Store.Reachable

namespace SerialNumbers

open Time

namespace Store

/-- What a block of calls that was left without a failure has done to a store. -/
structure BlockKept (s : Store) (key : Key) (row : Sequence) (calls : List Call) (s' : Store) :
    Prop where
  /-- The row is the left fold of the calls over the row that was read. -/
  folded : s'.row? key = some (calls.foldl (fun row call => call.change s.clock row) row)
  others : ∀ k, k ≠ key → s'.row? k = s.row? k
  /-- The entries stand at the end in the order of their calls, about the row, under the next
      numbers. -/
  logged : ∃ id, row.id = some id ∧
    s'.entries = s.entries ++ numbered s.nextEntryId (calls.filterMap (Call.written? (some id)))
  /-- The next numbers were not given before. -/
  fresh : ∀ e ∈ s.entries, ∃ n, e.id = some n ∧ n < s.nextEntryId
  nextEntryId : s'.nextEntryId =
    s.nextEntryId + (calls.filterMap (Call.written? row.id)).length
  nextId : s'.nextId = s.nextId

/-- A block that raises nothing is kept as a whole. -/
theorem Sound.block_kept {s : Store} (hs : s.Sound) {key : Key} {row : Sequence}
    {calls : List Call} (hrow : s.row? key = some row) (hcalls : calls.all Call.isAllowed = true) :
    (∃ tx, (block key calls none s).1 = .ok tx) ∧
      BlockKept s key row calls (block key calls none s).2 := by
  have hkey := hs.rows.keyed hrow
  obtain ⟨tx, htx⟩ := block_succeeds hs.memory (isBusy_of_free hs.free key) hrow hkey hcalls
  refine ⟨⟨tx, htx⟩, ?_⟩
  -- It does not fail, so all of its calls were done.
  rcases block_cases key calls none s with ⟨failure, herr, -⟩ | ⟨row', tx', -, -, hrow', -, -, hdone⟩
  · rw [htx] at herr
    cases herr
  · rw [hrow] at hrow'
    cases hrow'
    have hsettled := hdone hkey
    obtain ⟨id, hid, -⟩ := hs.rows.identified hrow
    refine ⟨?_, ?_, ⟨id, hid, ?_⟩, hs.log.numbered, hsettled.nextEntryId, ?_⟩
    · rw [hsettled.row?, if_pos (beq_self_eq_true key)]
      rfl
    · intro k hk
      rw [hsettled.row?, if_neg (by simpa using hk)]
    · rw [hsettled.entries, ← hid]
      rfl
    · rw [hsettled.nextId]
      exact Int.add_zero _

/-- A block that raises, by itself or in a call, leaves nothing behind. -/
theorem Sound.block_raised {s : Store} {key : Key} {calls : List Call} {leave : Option Failure}
    (hraise : leave ≠ none ∨ calls.all Call.isAllowed = false) :
    (∃ failure, (block key calls leave s).1 = .error failure) ∧
      s.SameRecords (block key calls leave s).2 := by
  rcases block_cases key calls leave s with ⟨failure, herr, hsame⟩ | ⟨_, _, hnone, hall, _⟩
  · exact ⟨⟨failure, herr⟩, hsame⟩
  · rcases hraise with hleave | hcall
    · exact absurd hnone hleave
    · rw [hall] at hcall
      cases hcall

/-- In every reachable store: an operation that raises leaves rows, log and both counters as
    they were, and no lock is held after any operation; a block that raises leaves nothing of
    its calls behind, and one that raises nothing is kept as a whole. -/
theorem Reachable.all_or_nothing {s : Store} (hs : s.Reachable) (i : Issuer) :
    (∀ op : Operation, (op.run i s).2.held = [] ∧
      ∀ failure, (op.run i s).1 = .error failure → s.SameRecords (op.run i s).2) ∧
    ∀ (key : Key) (row : Sequence) (calls : List Call), s.row? key = some row →
      (calls.all Call.isAllowed = true → (∃ tx, (block key calls none s).1 = .ok tx) ∧
        BlockKept s key row calls (block key calls none s).2) ∧
      (∀ leave, leave ≠ none ∨ calls.all Call.isAllowed = false →
        (∃ failure, (block key calls leave s).1 = .error failure) ∧
          s.SameRecords (block key calls leave s).2) := by
  refine ⟨?_, ?_⟩
  · intro op
    exact ⟨(hs.sound.run i op).free, fun failure h => op.run_error h⟩
  · intro key row calls hrow
    exact ⟨hs.sound.block_kept hrow, fun leave hraise => Sound.block_raised hraise⟩

/-- A block that counts up and then sets a negative value, on a row that is there. -/
theorem all_or_nothing_negative :
    let key : Key := ("acme", "invoices")
    let start : Moment := ⟨0, none, false⟩
    let row : Sequence := ⟨none, "acme", "invoices", "INV-\x7bCOUNTER\x7d", .never, none, 5, 1, 7,
      none, 0, [], start, start⟩
    let i : Issuer := ⟨.empty, .utc⟩
    let s := ((Operation.insert row).run i (new .memory 5000 start)).2
    let calls : List Call := [.increment none, .override (-1) none]
    s.Reachable ∧ s.row? key = some (Operation.stored (new .memory 5000 start) row) ∧
      (∃ failure, (block key calls none s).1 = .error failure) ∧
      s.SameRecords (block key calls none s).2 := by
  intro key start row i s calls
  have hs : s.Reachable := .run i (.insert row) (.new 5000 start)
  have hrow : s.row? key = some (Operation.stored (new .memory 5000 start) row) := rfl
  have hnot : calls.all Call.isAllowed = false := rfl
  exact ⟨hs, hrow, ((hs.all_or_nothing i).2 key _ calls hrow).2 none (.inr hnot)⟩

end Store

end SerialNumbers
