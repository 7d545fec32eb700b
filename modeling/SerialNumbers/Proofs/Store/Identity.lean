/-
  SerialNumbers.Proofs.Store.Identity

  Who a row is, and what the log keeps.  Ids are given in order, so none is
  given twice: a sequence that is made again after it was taken out is another
  one, and what was written about the one before is not among its entries.  The
  log only gets longer, and its entries are numbered from one on.

  Main statement: over every run rows and log are in order, and every id and
  every entry can be traced to what was done
  (`Run.ids_distinct_log_append_only`).
-/
import Mathlib.Data.List.Nodup
import SerialNumbers.Proofs.Store.Frame
import SerialNumbers.Proofs.Store.Replay
import SerialNumbers.Proofs.Store.Valid
import SerialNumbers.Proofs.Table

namespace SerialNumbers

open Time

namespace Store

/-! ## The keys of the rows -/

/-- No key has two rows. -/
def KeysDistinct (s : Store) : Prop := s.rows.keys.Nodup

section

variable {s s' : Store}

theorem KeysDistinct.of_rows (h : s.KeysDistinct) (hrows : s'.rows = s.rows) : s'.KeysDistinct := by
  unfold KeysDistinct
  rw [hrows]
  exact h

theorem KeysDistinct.settle (h : s.KeysDistinct) {row : Sequence} {done : Edited}
    (hsettle : s.settle row done = .ok s') : s'.KeysDistinct := by
  rw [eq_of_settle hsettle]
  exact Table.nodup_keys_insert h _ _

theorem KeysDistinct.committed (h : s.KeysDistinct) {tx : Transaction}
    (hcommit : s.committed tx = .ok s') : s'.KeysDistinct := by
  unfold Store.committed at hcommit
  split at hcommit
  -- A changed row is settled like the row of an edit, and one that is not changed stays.
  · have hsettle : s.settle tx.opened ⟨tx.current, tx.pending, .row tx.current⟩ = .ok s' := hcommit
    exact h.settle hsettle
  · cases hcommit
    exact h

theorem KeysDistinct.perform (h : s.KeysDistinct) (key : Key) (work : Work) :
    (s.perform key work).2.KeysDistinct := by
  have hlock : (s.lockOf key).2.KeysDistinct := h.of_rows (lockOf_rows s key)
  rcases perform_store_cases key work s with hs | hs | hs | ⟨row, done, hsettle⟩
  · rw [hs]
    exact h
  · rw [hs]
    exact h.of_rows (sameRecords_timedOut s key).rows
  · rw [hs]
    exact hlock
  · exact hlock.settle hsettle

theorem KeysDistinct.edit (h : s.KeysDistinct) (i : Issuer) (e : Edit) :
    (e.run i s).2.KeysDistinct := by
  have hperform : (e.perform i s).2.KeysDistinct := by
    cases hprepare : e.prepare i s.clock with
    | error failure =>
      rw [e.perform_of_error hprepare]
      exact h
    | ok work =>
      rw [e.perform_of_ok hprepare]
      exact h.perform e.key work
  -- The run leaves the rows that performing the work leaves.
  exact hperform.of_rows (sameRecords_of_quiet (e.run_alike i s).2).rows

theorem KeysDistinct.block (h : s.KeysDistinct) (key : Key) (calls : List Call)
    (leave : Option Failure) : (Store.block key calls leave s).2.KeysDistinct := by
  obtain ⟨body, hbody, hblock⟩ := block_apply key calls leave s
  rw [hblock]
  rcases transaction_cases hbody key s with ⟨failure, -, hsame⟩ | ⟨row, a, tx, t, -, -, hcommit, hdone⟩
  · exact h.of_rows hsame.rows
  · rw [hdone]
    have hlock : (s.lockOf key).2.KeysDistinct := h.of_rows (lockOf_rows s key)
    exact hlock.committed hcommit

theorem KeysDistinct.create (h : s.KeysDistinct) (row : Sequence) :
    (Store.create row s).2.KeysDistinct := by
  unfold Store.create
  cases hb : s.backing with
  | unreachable seconds =>
    simp only [StoreM.bind_apply, connect_unreachable hb]
    exact h
  | memory =>
    simp only [StoreM.bind_apply, connect_memory hb, StoreM.attempt_apply]
    cases hinsert : s.insertRow row with
    | error e => exact h
    | ok made =>
      obtain ⟨stored, t⟩ := made
      obtain ⟨-, -, rfl⟩ := insertRow_eq_ok.mp hinsert
      exact Table.nodup_keys_insert h _ _

theorem KeysDistinct.delete (h : s.KeysDistinct) (key : Key) :
    (Store.delete key s).2.KeysDistinct := by
  have hremoved : (((s.entered key).removeRow key).release (s.lockOf key).1).KeysDistinct := by
    have hlock : (s.lockOf key).2.KeysDistinct := h.of_rows (lockOf_rows s key)
    exact Table.nodup_keys_erase hlock key
  unfold Store.delete
  rw [StoreM.bind_apply, locked_apply]
  cases s.backing with
  | unreachable seconds => exact h
  | memory =>
    by_cases hbusy : s.isBusy key
    · simp only [hbusy, if_true]
      exact h.of_rows (sameRecords_timedOut s key).rows
    · simp only [hbusy, Bool.false_eq_true, if_false, StoreM.step_apply, entered_row?]
      cases (s.row? key).isSome <;> exact hremoved

theorem KeysDistinct.run (h : s.KeysDistinct) (i : Issuer) (op : Operation) :
    (op.run i s).2.KeysDistinct := by
  cases op with
  | create d now =>
    show ((Answer.row <$> i.create d now) s).2.KeysDistinct
    rw [StoreM.map_apply]
    unfold Issuer.create
    simp only [StoreM.bind_apply, StoreM.ofExcept_apply, timeOr_apply]
    cases i.checkedTemplate d.pattern with
    | error e => exact h
    | ok t =>
      dsimp only
      cases d.sequence (now.getD s.clock) with
      | error e => exact h
      | ok row => exact h.create row
  | insert row =>
    show ((Answer.row <$> Store.create row) s).2.KeysDistinct
    rw [StoreM.map_apply]
    exact h.create row
  | edit e => exact h.edit i e
  | delete key =>
    show ((Answer.removed <$> Store.delete key) s).2.KeysDistinct
    rw [StoreM.map_apply]
    exact h.delete key
  | append entry =>
    show ((Answer.entry <$> appendLog entry) s).2.KeysDistinct
    rw [StoreM.map_apply]
    unfold appendLog
    cases hb : s.backing with
    | unreachable seconds =>
      simp only [StoreM.bind_apply, connect_unreachable hb]
      exact h
    | memory =>
      simp only [StoreM.bind_apply, connect_memory hb, StoreM.step_apply]
      exact h
  | block key calls leave =>
    show (((fun tx => Answer.row tx.current) <$> Store.block key calls leave) s).2.KeysDistinct
    rw [StoreM.map_apply]
    exact h.block key calls leave

end

/-! ## Numbers from one on -/

/-- No key has two rows, ids and numbers are counted from one on, and the entries have all the
    numbers that were given out. -/
structure Counted (s : Store) : Prop where
  keys : s.KeysDistinct
  nextId : 1 ≤ s.nextId
  positive : ∀ {key row n}, s.row? key = some row → row.id = some n → 1 ≤ n
  entries : ∀ {k : Nat} {e}, s.entries[k]? = some e → e.id = some (k + 1)
  nextEntryId : s.nextEntryId = s.entries.length + 1

theorem Counted.changed {s s' : Store} {key : Key} {row : Option Sequence}
    {added : List LogEntry} {made : Nat} (hs : s.Counted) (h : s.Changed key row added made s')
    (hfits : s.Fits key row made) (hkeys : s'.KeysDistinct) : s'.Counted := by
  have hnext := hs.nextId
  refine ⟨hkeys, ?_, ?_, ?_, ?_⟩
  · rw [h.nextId]
    omega
  · intro k r n hr hn
    rcases h.row?_cases hfits hr with ⟨old, hread, hsame⟩ | ⟨-, -, -, -, hfresh⟩
    · exact hs.positive hread (hsame.id.symm.trans hn)
    · rw [hfresh, Option.some.injEq] at hn
      omega
  · intro k e hget
    rw [h.entries, List.getElem?_append] at hget
    split at hget
    · exact hs.entries hget
    -- A new entry has the next number and as many more as there are new ones before it.
    · rename_i hle
      rw [getElem?_numbered, hs.nextEntryId] at hget
      obtain ⟨e', -, rfl⟩ := Option.map_eq_some_iff.mp hget
      show some _ = some _
      rw [Option.some.injEq]
      omega
  · rw [h.nextEntryId, hs.nextEntryId, h.entries, List.length_append, length_numbered]
    omega

theorem Reachable.counted {s : Store} (h : s.Reachable) : s.Counted := by
  induction h with
  | new timeout clock =>
    refine ⟨List.nodup_nil, Int.le_refl 1, ?_, ?_, rfl⟩
    · intro key row n hrow
      rw [row?_new] at hrow
      cases hrow
    · intro k e hget
      cases hget
  | wait clock before ih => exact ⟨ih.keys, ih.nextId, ih.positive, ih.entries, ih.nextEntryId⟩
  | run i op before ih =>
    obtain ⟨_, _, _, _, hchanged, hfits⟩ := before.sound.change i op
    exact ih.changed hchanged hfits (ih.keys.run i op)

/-! ## Rows and log in order -/

/-- Rows and log are in order: rows sit under their own keys and are told apart by ids that were
    given out, each row keeps the bounds of its fields, and the entries are numbered from one
    on. -/
structure InOrder (s : Store) : Prop where
  keyed : ∀ e ∈ s.rows.entries, e.1 = (e.2.tenant, e.2.name)
  once : s.rows.keys.Nodup
  distinct : (s.rows.values.map (·.id)).Nodup
  identified : ∀ row ∈ s.rows.values, ∃ n, row.id = some n ∧ 1 ≤ n ∧ n < s.nextId ∧
    findById n s = (.ok (some row), s)
  bounded : ∀ row ∈ s.rows.values, 0 ≤ row.current ∧ 0 ≤ row.padding ∧ row.padding ≤ 20 ∧
    1 ≤ row.step ∧ 0 ≤ row.version
  numbered : ∀ {k : Nat} {e}, s.entries[k]? = some e → e.id = some (k + 1)
  nextEntryId : s.nextEntryId = s.entries.length + 1

theorem mem_values {s : Store} (h : s.KeysDistinct) {row : Sequence} :
    row ∈ s.rows.values ↔ ∃ key, s.row? key = some row := by
  unfold Table.values row?
  rw [List.mem_map]
  constructor
  · rintro ⟨⟨key, row⟩, hmem, rfl⟩
    exact ⟨key, (Table.get?_eq_some_iff h).mpr hmem⟩
  · rintro ⟨key, hrow⟩
    exact ⟨(key, row), (Table.get?_eq_some_iff h).mp hrow, rfl⟩

/-- The row with an id is found by it. -/
theorem findById_of_distinct {s : Store} (hmemory : s.backing = .memory)
    (hdistinct : (s.rows.values.map (·.id)).Nodup) {row : Sequence} (hrow : row ∈ s.rows.values)
    {n : Int} (hid : row.id = some n) : findById n s = (.ok (some row), s) := by
  have hfound : s.rows.values.find? (·.id == some n) = some row := by
    cases hfind : s.rows.values.find? (·.id == some n) with
    | none =>
      rw [List.find?_eq_none] at hfind
      exact absurd (beq_iff_eq.mpr hid) (hfind row hrow)
    | some other =>
      have hother : other.id = some n := by simpa using List.find?_some hfind
      rw [List.inj_on_of_nodup_map hdistinct (List.mem_of_find?_eq_some hfind) hrow
        (hother.trans hid.symm)]
  unfold findById
  simp only [StoreM.bind_apply, connect_memory hmemory, StoreM.get_apply, StoreM.pure_apply, hfound]

theorem Regular.inOrder {s : Store} (h : s.Regular) : s.InOrder := by
  have hsound := h.reachable.sound
  have hcounted := h.reachable.counted
  have hkeys : (s.rows.entries.map (·.1)).Nodup := hcounted.keys
  have hread {e : Key × Sequence} (he : e ∈ s.rows.entries) : s.row? e.1 = some e.2 :=
    (Table.get?_eq_some_iff hcounted.keys).mpr he
  have hdistinct : (s.rows.values.map (·.id)).Nodup := by
    unfold Table.values
    rw [List.map_map]
    -- One id is that of one key, and one key has one row.
    refine List.Nodup.map_on ?_ (List.Nodup.of_map _ hkeys)
    intro e he e' he' hid
    exact List.inj_on_of_nodup_map hkeys he he' (hsound.rows.distinct (hread he) (hread he') hid)
  refine ⟨?_, hcounted.keys, hdistinct, ?_, ?_, hcounted.entries, hcounted.nextEntryId⟩
  · intro e he
    exact (hsound.rows.keyed (hread he)).symm
  · intro row hrow
    obtain ⟨key, hkey⟩ := (mem_values hcounted.keys).mp hrow
    obtain ⟨n, hid, hlt⟩ := hsound.rows.identified hkey
    exact ⟨n, hid, hcounted.positive hkey hid, hlt,
      findById_of_distinct hsound.memory hdistinct hrow hid⟩
  · intro row hrow
    obtain ⟨key, hkey⟩ := (mem_values hcounted.keys).mp hrow
    have hvalid := h.valid hkey
    exact ⟨hvalid.current, hvalid.padding.1, hvalid.padding.2, hvalid.step, hvalid.version⟩

end Store

/-! ## Tracing ids and entries -/

/-- The id that was given to a new row. -/
def Record.given? (r : Record) : Option Int :=
  match r.operation, r.outcome with
  | .create .., .ok (.row row) | .insert _, .ok (.row row) => row.id
  | _, _ => none

/-- The store that was left before the rest of a run. -/
def leftBefore (later : List Record) (s : Store) : Store :=
  (later.head?.map (·.before)).getD s

/-- The entries that were written to a store, where this is the one that was left. -/
def Record.written (r : Record) (left : Store) : List LogEntry :=
  left.entries.drop r.before.entries.length

/-- Every id and every entry of a store comes from what was done: ids were given in order and
    each to one sequence, the log grew at its end only, and what was written by an operation on a
    row is about the sequence of that row. -/
structure Traced (records : List Record) (s : Store) : Prop where
  ordered : (records.filterMap (·.given?)).Pairwise (· < ·)
  origin : ∀ {key row}, s.row? key = some row → ∃ n ∈ records.filterMap (·.given?), row.id = some n
  /-- A row with an id that was seen before is the same sequence, under the same key. -/
  same : ∀ r ∈ records, ∀ {key old}, r.before.row? key = some old →
    ∀ {key' row}, s.row? key' = some row → row.id = old.id → key' = key ∧ old.SameIdentity row
  /-- What a record tells is what its operation came to, and the store that it left. -/
  ran : ∀ {earlier r later}, records = earlier ++ r :: later → ∃ i,
    (r.operation.run i r.before).1 = r.outcome ∧
      (r.operation.run i r.before).2.SameRecords (leftBefore later s)
  grown : ∀ {earlier r later}, records = earlier ++ r :: later →
    r.before.entries <+: (leftBefore later s).entries ∧ (leftBefore later s).entries <+: s.entries
  about : ∀ {earlier r later}, records = earlier ++ r :: later → ∀ {key old},
    r.operation.subject? = some key → r.before.row? key = some old →
      ∀ e ∈ r.written (leftBefore later s), old.id = some e.sequenceId

/-- What is needed of the ids that were seen to go on tracing them. -/
structure Known (records : List Record) (s : Store) : Prop where
  given : ∀ n ∈ records.filterMap (·.given?), n < s.nextId
  seen : ∀ r ∈ records, ∀ {key old}, r.before.row? key = some old →
    ∃ n, old.id = some n ∧ n < s.nextId

/-- An operation gives the next id to a new row, or gives none. -/
theorem Store.Sound.given?_cases {s : Store} (hs : s.Sound) (i : Issuer) (op : Operation) :
    (Record.given? ⟨s, op, (op.run i s).1⟩ = some s.nextId ∧
      (op.run i s).2.nextId = s.nextId + 1) ∨
    (Record.given? ⟨s, op, (op.run i s).1⟩ = none ∧ (op.run i s).2.nextId = s.nextId) := by
  rcases op.run_cases i s with ⟨failure, herr, hsame⟩ | ⟨answer, hans, heffect⟩
  · rw [herr]
    refine .inr ⟨?_, hsame.nextId⟩
    cases op <;> rfl
  · rw [hans]
    cases heffect with
    | create hchecked hdrafted hfree hchanged => exact .inl ⟨rfl, hchanged.nextId⟩
    | insert hfree hchanged => exact .inl ⟨rfl, hchanged.nextId⟩
    | edit hprepared hread hworked hchanged =>
      exact .inr ⟨rfl, hchanged.nextId.trans (Int.add_zero _)⟩
    | delete hchanged => exact .inr ⟨rfl, hchanged.nextId.trans (Int.add_zero _)⟩
    | append hchanged => exact .inr ⟨rfl, (hchanged ("", "")).nextId.trans (Int.add_zero _)⟩
    | block hallowed hread hchanged =>
      exact .inr ⟨rfl, (hchanged (hs.rows.keyed hread)).nextId.trans (Int.add_zero _)⟩

theorem filterMap_given?_concat (records : List Record) (r : Record) :
    (records ++ [r]).filterMap (·.given?) = records.filterMap (·.given?) ++ r.given?.toList := by
  rw [List.filterMap_append]
  cases h : r.given? <;> simp [h]

/-- Where a run with one more record can be cut. -/
theorem cut_concat {records earlier later : List Record} {last r : Record}
    (h : records ++ [last] = earlier ++ r :: later) :
    (later = [] ∧ r = last) ∨ ∃ later', later = later' ++ [last] ∧ records = earlier ++ r :: later' := by
  rcases List.eq_nil_or_concat later with rfl | ⟨later', last', rfl⟩
  · exact .inl ⟨rfl, (List.append_singleton_inj.mp h).2.symm⟩
  · rw [List.concat_eq_append] at h ⊢
    rw [← List.cons_append, ← List.append_assoc] at h
    obtain ⟨hrecords, rfl⟩ := List.append_singleton_inj.mp h
    exact .inr ⟨later', rfl, hrecords⟩

theorem leftBefore_concat (later : List Record) (last : Record) (s : Store) :
    leftBefore (later ++ [last]) s = leftBefore later last.before := by
  cases later <;> rfl

/-- Waiting changes no record. -/
theorem leftBefore_wait (later : List Record) (s : Store) (clock : Moment) :
    (leftBefore later s).SameRecords (leftBefore later { s with clock }) := by
  cases later <;> exact ⟨rfl, rfl, rfl, rfl, rfl, rfl⟩

theorem Known.step {records : List Record} {s : Store} (h : Known records s) (hs : s.Sound)
    (i : Issuer) (op : Operation) :
    Known (records ++ [⟨s, op, (op.run i s).1⟩]) (op.run i s).2 := by
  have hgiven := hs.given?_cases i op
  have hle : s.nextId ≤ (op.run i s).2.nextId := by omega
  refine ⟨?_, ?_⟩
  · intro n hn
    rw [filterMap_given?_concat, List.mem_append, Option.mem_toList] at hn
    rcases hn with hn | hn
    · exact Int.lt_of_lt_of_le (h.given n hn) hle
    · rcases hgiven with ⟨hnew, hnext⟩ | ⟨hnone, -⟩
      · rw [hnew, Option.some.injEq] at hn
        omega
      · rw [hnone] at hn
        cases hn
  · intro r hr key old hold
    rcases List.mem_append.mp hr with hr | hr
    · obtain ⟨n, hid, hlt⟩ := h.seen r hr hold
      exact ⟨n, hid, Int.lt_of_lt_of_le hlt hle⟩
    · rw [List.mem_singleton.mp hr] at hold
      obtain ⟨n, hid, hlt⟩ := hs.rows.identified hold
      exact ⟨n, hid, Int.lt_of_lt_of_le hlt hle⟩

theorem Traced.wait {records : List Record} {s : Store} (h : Traced records s) (clock : Moment) :
    Traced records { s with clock } := by
  refine ⟨h.ordered, h.origin, h.same, ?_, ?_, ?_⟩
  · intro earlier r later hcut
    obtain ⟨i, houtcome, hleft⟩ := h.ran hcut
    exact ⟨i, houtcome, hleft.trans (leftBefore_wait later s clock)⟩
  · intro earlier r later hcut
    rw [(leftBefore_wait later s clock).entries]
    exact h.grown hcut
  · intro earlier r later hcut
    unfold Record.written
    rw [(leftBefore_wait later s clock).entries]
    exact h.about hcut

/-- What is done keeps all ids and entries traced. -/
theorem Traced.step {records : List Record} {s : Store} (h : Traced records s)
    (hknown : Known records s) (hs : s.Sound) (i : Issuer) (op : Operation) :
    Traced (records ++ [⟨s, op, (op.run i s).1⟩]) (op.run i s).2 := by
  have hgiven := hs.given?_cases i op
  obtain ⟨key₀, row₀, added, made, hchanged, hfits⟩ := hs.change i op
  have hgrows := hs.entries_prefix i op
  refine ⟨?_, ?_, ?_, ?_, ?_, ?_⟩
  · rw [filterMap_given?_concat, List.pairwise_append]
    refine ⟨h.ordered, Option.pairwise_toList, ?_⟩
    intro n hn m hm
    rw [Option.mem_toList] at hm
    -- The next id is greater than all that were given.
    rcases hgiven with ⟨hnew, -⟩ | ⟨hnone, -⟩
    · rw [hnew, Option.some.injEq] at hm
      exact hm ▸ hknown.given n hn
    · rw [hnone] at hm
      cases hm
  · intro key row hrow
    rw [filterMap_given?_concat]
    rcases hchanged.row?_cases hfits hrow with ⟨old, hread, hsame⟩ | ⟨-, hmade, -, -, hfresh⟩
    · obtain ⟨n, hn, hid⟩ := h.origin hread
      exact ⟨n, List.mem_append_left _ hn, hsame.id.trans hid⟩
    · -- A row was made, so an id was given, and it is this one.
      have hnext := hchanged.nextId
      rcases hgiven with ⟨hnew, -⟩ | ⟨-, hkept⟩
      · exact ⟨s.nextId, List.mem_append_right _ (Option.mem_toList.mpr hnew), hfresh⟩
      · omega
  · intro r hr key old hold key' row hrow hid
    rcases hchanged.row?_cases hfits hrow with ⟨now, hread, hsame⟩ | ⟨-, -, -, -, hfresh⟩
    -- The row was there before, and is the same sequence as it was then.
    · rcases List.mem_append.mp hr with hr | hr
      · obtain ⟨hkey, hold⟩ := h.same r hr hold hread (hsame.id.symm.trans hid)
        exact ⟨hkey, hold.trans hsame⟩
      · rw [List.mem_singleton.mp hr] at hold
        have hkey : key' = key := hs.rows.distinct hread hold (hsame.id.symm.trans hid)
        rw [hkey, show s.row? key = some old from hold, Option.some.injEq] at hread
        exact ⟨hkey, hread ▸ hsame⟩
    · -- The id is new, so no row had it before.
      have hseen : ∃ n, old.id = some n ∧ n < s.nextId := by
        rcases List.mem_append.mp hr with hr | hr
        · exact hknown.seen r hr hold
        · rw [List.mem_singleton.mp hr] at hold
          exact hs.rows.identified hold
      obtain ⟨n, holdid, hlt⟩ := hseen
      rw [hfresh, holdid, Option.some.injEq] at hid
      omega
  -- A cut is at the last record, or it is a cut of the records before it.
  · intro earlier r later hcut
    rcases cut_concat hcut with ⟨rfl, rfl⟩ | ⟨later', rfl, hrecords⟩
    · exact ⟨i, rfl, .refl _⟩
    · rw [leftBefore_concat]
      exact h.ran hrecords
  · intro earlier r later hcut
    rcases cut_concat hcut with ⟨rfl, rfl⟩ | ⟨later', rfl, hrecords⟩
    · exact ⟨hgrows, List.prefix_rfl⟩
    · rw [leftBefore_concat]
      obtain ⟨hgrown, hkept⟩ := h.grown hrecords
      exact ⟨hgrown, hkept.trans hgrows⟩
  · intro earlier r later hcut key old hsubject hold e he
    rcases cut_concat hcut with ⟨rfl, rfl⟩ | ⟨later', rfl, hrecords⟩
    -- What the last operation has written is what follows the log that it found.
    · obtain ⟨_, written, hacted, -, habout⟩ := hs.acts i hsubject
      have hnumbered : e ∈ Store.numbered s.nextEntryId written := by
        have hdrop : (op.run i s).2.entries.drop s.entries.length =
            Store.numbered s.nextEntryId written := by
          rw [hacted.entries, List.drop_left]
        rw [← hdrop]
        exact he
      obtain ⟨old', hold', hid⟩ := Store.forall_numbered
        (p := fun n => ∃ old, s.row? key = some old ∧ old.id = some n) habout e hnumbered
      rw [show s.row? key = some old from hold, Option.some.injEq] at hold'
      exact hold' ▸ hid
    · rw [leftBefore_concat] at he
      exact h.about hrecords hsubject hold e he

theorem Run.traced {records : List Record} {s : Store} (hrun : Run records s) :
    Traced records s ∧ Known records s := by
  induction hrun with
  | new timeout clock =>
    -- Nothing was done yet, so there is no place to cut.
    have hnone {earlier later : List Record} {r : Record} : [] ≠ earlier ++ r :: later :=
      (List.append_ne_nil_of_right_ne_nil _ (List.cons_ne_nil _ _)).symm
    refine ⟨⟨.nil, ?_, List.forall_mem_nil _, fun hcut => absurd hcut hnone,
      fun hcut => absurd hcut hnone, fun hcut => absurd hcut hnone⟩, List.forall_mem_nil _,
      List.forall_mem_nil _⟩
    intro key row hrow
    rw [Store.row?_new] at hrow
    cases hrow
  | @step records s i clock op before ih =>
    have hsound := (Store.Reachable.wait clock before.reachable).sound
    have hknown : Known records { s with clock } := ⟨ih.2.given, ih.2.seen⟩
    exact ⟨(ih.1.wait clock).step hknown hsound i op, hknown.step hsound i op⟩

theorem Run.regular {records : List Record} {s : Store} (hrun : Run records s)
    (hregular : ∀ r ∈ records, r.operation.IsRegular) : s.Regular := by
  induction hrun with
  | new timeout clock => exact .new timeout clock
  | @step records s i clock op before ih =>
    have hbefore := ih fun r hr => hregular r (List.mem_append_left _ hr)
    have hlast := hregular _ (List.mem_append_right records (List.mem_singleton_self _))
    exact .run i hlast (.wait clock hbefore)

/-- What was written by operations on rows with other ids is not among the entries about a
    sequence. -/
theorem Traced.apart {records : List Record} {s : Store} (h : Traced records s)
    {earlier later : List Record} {r : Record} (hcut : records = earlier ++ r :: later)
    {key : Key} {old : Sequence} (hsubject : r.operation.subject? = some key)
    (hold : r.before.row? key = some old) {n : Int} (hne : old.id ≠ some n) :
    ∀ e ∈ r.written (leftBefore later s), e ∉ s.entriesOf n := by
  intro e he hmem
  have hn : e.sequenceId = n := by simpa using (List.mem_filter.mp hmem).2
  exact hne (hn ▸ h.about hcut hsubject hold e he)

/-- Over every run of operations, with any failures: rows and log are in order; ids are never
    given twice, and the log only grows at its end; and no entry about a stored row was written by
    an operation on a row with another id, such as one that had its key before. -/
theorem Run.ids_distinct_log_append_only {records : List Record} {s : Store}
    (hrun : Run records s) (hregular : ∀ r ∈ records, r.operation.IsRegular) :
    s.InOrder ∧ Traced records s ∧
      ∀ {earlier r later}, records = earlier ++ r :: later →
        ∀ {key old}, r.operation.subject? = some key → r.before.row? key = some old →
          ∀ {key' row n}, s.row? key' = some row → row.id = some n → old.id ≠ some n →
            ∀ e ∈ r.written (leftBefore later s), e ∉ s.entriesOf n := by
  refine ⟨(hrun.regular hregular).inOrder, hrun.traced.1, ?_⟩
  intro earlier r later hcut key old hsubject hold key' row n _ _ hne
  exact hrun.traced.1.apart hcut hsubject hold hne

/-- A sequence that was made, set to seven, taken out and made again. -/
theorem Run.ids_distinct_log_append_only_made_again :
    let i : Issuer := ⟨.empty, .utc⟩
    let start : Moment := ⟨0, none, false⟩
    let key : Key := ("acme", "invoices")
    let create : Operation := .create
      { tenant := .text "acme", name := .text "invoices", pattern := "INV-\x7bCOUNTER\x7d" } none
    let count : Operation := .edit (.overrideRow key 7 .none .none none)
    let record (op : Operation) (s : Store) : Record :=
      ⟨{ s with clock := start }, op, (op.run i { s with clock := start }).1⟩
    let after (op : Operation) (s : Store) : Store := (op.run i { s with clock := start }).2
    let s₀ := Store.new .memory 5000 start
    let s₁ := after create s₀
    let s₂ := after count s₁
    let s₃ := after (.delete key) s₂
    let s := after create s₃
    let records := [record create s₀, record count s₁, record (.delete key) s₂, record create s₃]
    Run records s ∧ (∀ r ∈ records, r.operation.IsRegular) ∧
      (s.row? key).map (·.id) = some (some 2) ∧ s.entries.map (·.sequenceId) = [1] ∧
      s.InOrder ∧ Traced records s ∧ ∀ e ∈ (record count s₁).written s₂, e ∉ s.entriesOf 2 := by
  intro i start key create count record after s₀ s₁ s₂ s₃ s records
  have hrun : Run records s := .step i start create (.step i start (.delete key)
    (.step i start count (.step i start create (.new 5000 start))))
  have hregular : ∀ r ∈ records, r.operation.IsRegular := by
    intro r hr
    simp only [records, List.mem_cons, List.not_mem_nil, or_false] at hr
    rcases hr with rfl | rfl | rfl | rfl <;> trivial
  have hid : (s.row? key).map (·.id) = some (some 2) := by decide +kernel
  have hbefore : (s₁.row? key).map (·.id) = some (some 1) := by decide +kernel
  obtain ⟨row, hrow, hrowid⟩ := Option.map_eq_some_iff.mp hid
  obtain ⟨old, hold, holdid⟩ := Option.map_eq_some_iff.mp hbefore
  obtain ⟨horder, htraced, hapart⟩ := hrun.ids_distinct_log_append_only hregular
  have hcut : records = [record create s₀] ++ record count s₁ ::
      [record (.delete key) s₂, record create s₃] := rfl
  refine ⟨hrun, hregular, hid, by decide +kernel, horder, htraced, ?_⟩
  exact hapart hcut rfl hold hrow hrowid (by rw [holdid]; decide)

end SerialNumbers
