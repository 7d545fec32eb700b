/-
  SerialNumbers.Proofs.Store.Replay

  The log as a replay of every counter.  A run is what was done to a store from
  its start on, with what came of it.  As long as nothing moves a counter
  without a word in the log, each stored row can be told from the log: its
  counter is that of its last entry, its last reset is that of its last reset
  entry, its version is the number of its entries and updates, and its numbers
  are those that were answered (`Run.replays`).
-/
import SerialNumbers.Proofs.Store.Footprint
import SerialNumbers.Proofs.Store.Reachable

namespace SerialNumbers

open Time

/-! ## Runs -/

/-- What was done, to which store, and what came of it. -/
structure Record where
  before : Store
  operation : Operation
  outcome : Except Failure Answer

/-- What was done to a store so far, the first first, and the store that it has led to.  Each
    operation has an issuer and a time of its own. -/
inductive Run : List Record → Store → Prop where
  | new (timeout : Int) (clock : Moment) : Run [] (.new .memory timeout clock)
  | step {records : List Record} {s : Store} (i : Issuer) (clock : Moment) (op : Operation)
    (before : Run records s) :
    Run (records ++ [⟨{ s with clock }, op, (op.run i { s with clock }).1⟩])
      (op.run i { s with clock }).2

theorem Run.reachable {records : List Record} {s : Store} (h : Run records s) : s.Reachable := by
  induction h with
  | new timeout clock => exact .new timeout clock
  | step i clock op before ih => exact .run i op (.wait clock ih)

/-- The operation writes to the log whatever it does to a counter, and nothing else. -/
def Operation.isLogged : Operation → Bool
  | create .. | delete .. => true
  | edit e => e.isLogged
  | insert .. | append .. | block .. => false

namespace Record

/-- The sequence with an id was the one under a key. -/
def isAbout (r : Record) (key : Key) (id : Int) : Bool :=
  (r.before.row? key).any (·.id == some id)

/-- The configuration of a sequence was changed. -/
def hasUpdated (id : Int) (r : Record) : Bool :=
  match r.operation, r.outcome with
  | .edit (.update key _ _), .ok _ => r.isAbout key id
  | _, _ => false

/-- The number and the counter that were answered when a number of a sequence was issued. -/
def issued? (id : Int) (r : Record) : Option (String × Int) :=
  match r.operation, r.outcome with
  | .edit (.generate row _ _ _), .ok answer => if r.isAbout row.key id then answer.issued? else none
  | _, _ => none

end Record

/-- The last of some entries: the one with the greatest number. -/
def LogEntry.newest (entries : List LogEntry) : Option LogEntry :=
  entries.find? fun e => entries.all fun other => other.id.getD 0 ≤ e.id.getD 0

/-- A row can be told from the log and from what was answered. -/
structure Replays (records : List Record) (s : Store) (row : Sequence) (id : Int) : Prop where
  current : row.current = (LogEntry.newest (s.entriesOf id)).elim 0 (·.counter)
  lastResetAt : row.lastResetAt =
    (LogEntry.newest ((s.entriesOf id).filter (·.action == .reset))).map (·.createdAt)
  version : row.version = (s.entriesOf id).length + records.countP (·.hasUpdated id)
  issued : ((s.entriesOf id).filter (·.action == .generated)).map (·.issued) =
    records.filterMap (·.issued? id)

/-! ## The last entry -/

/-- In a list that is in the order of its numbers the newest entry is the last one. -/
theorem LogEntry.newest_eq_getLast? {entries : List LogEntry}
    (h : entries.Pairwise fun a b => a.id.getD 0 < b.id.getD 0) :
    LogEntry.newest entries = entries.getLast? := by
  cases hlast : entries.getLast? with
  | none =>
    rw [List.getLast?_eq_none_iff.mp hlast]
    rfl
  | some last =>
    obtain ⟨rest, rfl⟩ := List.getLast?_eq_some_iff.mp hlast
    obtain ⟨-, -, hbefore⟩ := List.pairwise_append.mp h
    have hlt : ∀ e ∈ rest, e.id.getD 0 < last.id.getD 0 := fun e he =>
      hbefore e he last (List.mem_singleton_self last)
    -- No entry before the last one has a number as great as its own.
    have hnone : rest.find? (fun e => (rest ++ [last]).all fun other =>
        other.id.getD 0 ≤ e.id.getD 0) = none := by
      rw [List.find?_eq_none]
      intro e he hall
      have hle := List.all_eq_true.mp hall last
        (List.mem_append_right rest (List.mem_singleton_self last))
      have hge := hlt e he
      rw [decide_eq_true_eq] at hle
      omega
    have hall : ((rest ++ [last]).all fun other => other.id.getD 0 ≤ last.id.getD 0) = true := by
      rw [List.all_eq_true]
      intro e he
      rw [decide_eq_true_eq]
      rcases List.mem_append.mp he with he | he
      · exact Int.le_of_lt (hlt e he)
      · exact Int.le_of_eq (by rw [List.mem_singleton.mp he])
    unfold LogEntry.newest
    rw [List.find?_append, hnone, Option.none_or]
    exact List.find?_cons_of_pos hall

/-! ## Telling a row from its entries -/

/-- A row as it is told by entries, by the number of its updates, and by its numbers. -/
structure Told (entries : List LogEntry) (updates : Nat) (issued : List (String × Int))
    (row : Sequence) : Prop where
  current : row.current = (entries.map (·.counter)).getLast?.getD 0
  lastResetAt : row.lastResetAt = ((entries.filter (·.action == .reset)).map (·.createdAt)).getLast?
  version : row.version = entries.length + updates
  issued : (entries.filter (·.action == .generated)).map (·.issued) = issued

/-- A new row is told by no entry. -/
theorem Sequence.Fresh.told {row : Sequence} (h : row.Fresh) : Told [] 0 [] row :=
  ⟨h.current, h.lastResetAt, h.version, rfl⟩

/-- A logged edit adds to the entries what it does to the row. -/
theorem Told.edited {entries : List LogEntry} {updates more : Nat} {issued : List (String × Int)}
    {row : Sequence} {done : Edited} (h : Told entries updates issued row)
    (hdone : done.Logged row more) (n : Int) :
    Told (entries ++ Store.numbered n done.entries) (updates + more)
      (issued ++ done.answer.issued?.toList) done.row := by
  have hcounters : (Store.numbered n done.entries).map (·.counter) =
      done.entries.map (·.counter) :=
    Store.map_numbered (·.counter) (fun _ _ => rfl) n done.entries
  refine ⟨?_, ?_, ?_, ?_⟩
  · rw [hdone.current, h.current, List.map_append, hcounters, List.getLast?_append,
      List.getLast?_map, List.getLast?_map]
    cases done.entries.getLast? <;> rfl
  · rw [hdone.lastResetAt, h.lastResetAt, List.filter_append, List.map_append,
      Store.filter_map_numbered (·.action == .reset) (·.createdAt) (fun _ _ => rfl)
        (fun _ _ => rfl), List.getLast?_append, List.getLast?_map, List.getLast?_map]
    cases (done.entries.filter (·.action == .reset)).getLast? <;> rfl
  · rw [hdone.version, h.version, List.length_append, Store.length_numbered]
    omega
  · rw [List.filter_append, List.map_append, h.issued,
      Store.filter_map_numbered (·.action == .generated) (·.issued) (fun _ _ => rfl)
        (fun _ _ => rfl), hdone.issued]

/-! ## Every run -/

/-- Every stored row is told by its entries and by the records, and nothing is known of ids
    that were not given yet. -/
structure Tallied (records : List Record) (s : Store) : Prop where
  rows : ∀ {key row id}, s.row? key = some row → row.id = some id →
    Told (s.entriesOf id) (records.countP (·.hasUpdated id)) (records.filterMap (·.issued? id)) row
  fresh : ∀ {id}, s.nextId ≤ id → s.entriesOf id = [] ∧
    records.countP (·.hasUpdated id) = 0 ∧ records.filterMap (·.issued? id) = []

/-- What was done neither updates nor issues. -/
def Record.IsQuiet (r : Record) : Prop :=
  ∀ id, r.hasUpdated id = false ∧ r.issued? id = none

theorem Record.isQuiet_of_error (s : Store) (op : Operation) (failure : Failure) :
    Record.IsQuiet ⟨s, op, .error failure⟩ := by
  intro id
  cases op with
  | edit e => cases e <;> exact ⟨rfl, rfl⟩
  | _ => exact ⟨rfl, rfl⟩

theorem Record.IsQuiet.append {r : Record} (h : r.IsQuiet) (records : List Record) (id : Int) :
    (records ++ [r]).countP (·.hasUpdated id) = records.countP (·.hasUpdated id) ∧
      (records ++ [r]).filterMap (·.issued? id) = records.filterMap (·.issued? id) := by
  obtain ⟨hupdated, hissued⟩ := h id
  rw [List.countP_append, List.countP_cons, hupdated, List.filterMap_append, List.filterMap_cons,
    hissued]
  exact ⟨rfl, List.append_nil _⟩

theorem Tallied.quiet {records : List Record} {s s' : Store} {r : Record}
    (h : Tallied records s) (hr : r.IsQuiet) (hentries : s'.entries = s.entries)
    (hnext : s.nextId ≤ s'.nextId)
    (hrows : ∀ {key row}, s'.row? key = some row →
      s.row? key = some row ∨ row.id = some s.nextId ∧ row.Fresh) :
    Tallied (records ++ [r]) s' := by
  have hof (id : Int) : s'.entriesOf id = s.entriesOf id := by
    unfold Store.entriesOf
    rw [hentries]
  refine ⟨?_, ?_⟩
  · intro key row id hrow hid
    obtain ⟨hupdates, hissued⟩ := hr.append records id
    rw [hof, hupdates, hissued]
    -- A row that was not there before has a new id, of which nothing is told yet.
    rcases hrows hrow with hold | ⟨hnew, hfresh⟩
    · exact h.rows hold hid
    · rw [hnew, Option.some.injEq] at hid
      obtain ⟨hnone, hzero, hnil⟩ := h.fresh (Int.le_of_eq hid)
      rw [hnone, hzero, hnil]
      exact hfresh.told
  · intro id hle
    obtain ⟨hupdates, hissued⟩ := hr.append records id
    rw [hof, hupdates, hissued]
    exact h.fresh (Int.le_trans hnext hle)

/-- A record of an operation on a row is about the sequence with the id of the row. -/
theorem Record.isAbout_of_read {s : Store} {key : Key} {row : Sequence} {n : Int}
    (hread : s.row? key = some row) (hid : row.id = some n) (op : Operation)
    (outcome : Except Failure Answer) (id : Int) :
    isAbout ⟨s, op, outcome⟩ key id = decide (n = id) := by
  unfold isAbout
  rw [hread]
  show (row.id == some id) = _
  rw [hid]
  by_cases h : n = id <;> simp [h]

/-- What the record of an edit tells about a sequence: all of it if the edit was on its row,
    and else nothing. -/
theorem Record.edit_tells {i : Issuer} {s : Store} {e : Edit} {row : Sequence} {done : Edited}
    {n : Int} (hmakes : e.Makes i row done) (hread : s.row? e.key = some row)
    (hid : row.id = some n) (id : Int) :
    ([⟨s, .edit e, .ok done.answer⟩] : List Record).countP (·.hasUpdated id) =
        (if n = id then e.updates else 0) ∧
      ([⟨s, .edit e, .ok done.answer⟩] : List Record).filterMap (·.issued? id) =
        (if n = id then done.answer.issued?.toList else []) := by
  have habout : (s.row? e.key).any (·.id == some id) = decide (n = id) :=
    isAbout_of_read hread hid (.edit e) (.ok done.answer) id
  have hother (hnot : e.isIssue = false) :
      (if n = id then done.answer.issued?.toList else []) = [] := by
    rw [hmakes.issued?_eq_none hnot]
    exact ite_self []
  cases e with
  | update key expected changes =>
    refine ⟨?_, (hother rfl).symm⟩
    show [_].countP _ = if n = id then 1 else 0
    rw [List.countP_singleton]
    show (if (s.row? key).any (·.id == some id) = true then 1 else 0) = _
    rw [show (s.row? key).any (·.id == some id) = decide (n = id) from habout]
    simp only [decide_eq_true_eq]
  | generate row₀ c causer now =>
    refine ⟨(ite_self 0).symm, ?_⟩
    have hrecord : issued? id ⟨s, .edit (.generate row₀ c causer now), .ok done.answer⟩ =
        if (s.row? row₀.key).any (·.id == some id) then done.answer.issued? else none := rfl
    rw [List.filterMap_cons, hrecord,
      show (s.row? row₀.key).any (·.id == some id) = decide (n = id) from habout]
    by_cases h : n = id
    · simp only [h, decide_true, if_true]
      cases done.answer.issued? <;> rfl
    · simp only [h, decide_false, Bool.false_eq_true, if_false]
      rfl
  | increment key now => exact ⟨(ite_self 0).symm, (hother rfl).symm⟩
  | reset row₀ reason causer now => exact ⟨(ite_self 0).symm, (hother rfl).symm⟩
  | override row₀ value reason causer now => exact ⟨(ite_self 0).symm, (hother rfl).symm⟩
  | resetRow key reason causer now => exact ⟨(ite_self 0).symm, (hother rfl).symm⟩
  | overrideRow key value reason causer now => exact ⟨(ite_self 0).symm, (hother rfl).symm⟩

/-- An edit that is logged keeps every row told. -/
theorem Tallied.edit {records : List Record} {s s' : Store} {i : Issuer} {e : Edit}
    {row : Sequence} {done : Edited} (h : Tallied records s) (hs : s.Sound)
    (hlogged : e.isLogged = true) (hmakes : e.Makes i row done) (hread : s.row? e.key = some row)
    (hsettled : s.Settled row.key done s') :
    Tallied (records ++ [⟨s, .edit e, .ok done.answer⟩]) s' := by
  obtain ⟨n, hid, hlt⟩ := hs.rows.identified hread
  have hdone := hmakes.logged hlogged
  -- All that is written is about the row that was edited.
  have habout : ∀ e ∈ done.entries, e.sequenceId = n := by
    intro e he
    rw [hdone.about e he, hid]
    rfl
  have hentries (id : Int) : s'.entriesOf id = s.entriesOf id ++
      if n = id then Store.numbered s.nextEntryId done.entries else [] :=
    hsettled.entriesOf habout id
  refine ⟨?_, ?_⟩
  · intro key r id hr hrid
    obtain ⟨hupdates, hissued⟩ := Record.edit_tells hmakes hread hid id
    rw [hentries, List.countP_append, List.filterMap_append, hupdates, hissued]
    rw [hsettled.row?] at hr
    have hkey := hs.rows.keyed hread
    by_cases hk : key == row.key
    · rw [if_pos hk, Option.some.injEq] at hr
      have hn : n = id := by
        rw [← hr, hmakes.sameIdentity.id, hid, Option.some.injEq] at hrid
        exact hrid
      rw [if_pos hn, if_pos hn, if_pos hn, ← hr]
      -- The row that was edited.
      exact (h.rows hread (hn ▸ hid)).edited hdone _
    · rw [if_neg hk] at hr
      -- Any other row has another id, so nothing is added to what is told of it.
      have hn : n ≠ id := by
        intro hn
        have hsame : e.key = key := hs.rows.distinct hread hr (by rw [hid, hrid, hn])
        rw [hkey, hsame] at hk
        exact hk (beq_self_eq_true key)
      rw [if_neg hn, if_neg hn, if_neg hn, List.append_nil, List.append_nil]
      exact h.rows hr hrid
  · intro id hle
    rw [hsettled.nextId] at hle
    have hn : n ≠ id := by omega
    obtain ⟨hupdates, hissued⟩ := Record.edit_tells hmakes hread hid id
    rw [hentries, List.countP_append, List.filterMap_append, hupdates, hissued, if_neg hn, if_neg hn,
      if_neg hn, List.append_nil, List.append_nil]
    exact h.fresh (by omega)

/-- What is done keeps every row told, if it is logged. -/
theorem Tallied.step {records : List Record} {s : Store} (h : Tallied records s) (hs : s.Sound)
    (i : Issuer) {op : Operation} (hlogged : op.isLogged = true) :
    Tallied (records ++ [⟨s, op, (op.run i s).1⟩]) (op.run i s).2 := by
  rcases op.run_cases i s with ⟨failure, herr, hsame⟩ | ⟨answer, hans, heffect⟩
  · rw [herr]
    refine h.quiet (Record.isQuiet_of_error s op failure) hsame.entries
      (Int.le_of_eq hsame.nextId.symm) ?_
    intro key row hrow
    rw [hsame.row?] at hrow
    exact .inl hrow
  · rw [hans]
    cases op with
    | edit e =>
      cases heffect with
      | edit hprepare hread hwork hsettled =>
        exact h.edit hs hlogged (e.makes hprepare hwork) hread hsettled
    | create d now =>
      cases heffect with
      | @create _ _ t new _ hchecked hdrafted hfree hchanged =>
        refine h.quiet (fun id => ⟨rfl, rfl⟩) (hchanged.entries.trans (List.append_nil _))
          (by rw [hchanged.nextId]; omega) ?_
        intro key row hrow
        rw [hchanged.row?] at hrow
        split at hrow
        · right
          cases hrow
          have hfresh := Issuer.Draft.sequence_eq_ok hdrafted
          exact ⟨rfl, hfresh.current, hfresh.version, hfresh.lastResetAt, hfresh.step⟩
        · exact .inl hrow
    | delete key =>
      cases heffect with
      | delete hchanged =>
        refine h.quiet (fun id => ⟨rfl, rfl⟩) (hchanged.entries.trans (List.append_nil _))
          (by rw [hchanged.nextId]; omega) ?_
        intro k row hrow
        rw [hchanged.row?] at hrow
        split at hrow
        · cases hrow
        · exact .inl hrow
    | insert row => cases hlogged
    | append entry => cases hlogged
    | block key calls leave => cases hlogged

theorem Run.tallied {records : List Record} {s : Store} (hrun : Run records s)
    (hlogged : ∀ r ∈ records, r.operation.isLogged = true) : Tallied records s := by
  induction hrun with
  | new timeout clock =>
    refine ⟨?_, fun _ => ⟨rfl, rfl, rfl⟩⟩
    intro key row id hrow
    rw [Store.row?_new] at hrow
    cases hrow
  | @step records s i clock op before ih =>
    have hbefore := ih fun r hr => hlogged r (List.mem_append_left _ hr)
    have hlast := hlogged _ (List.mem_append_right records (List.mem_singleton_self _))
    -- The clock is neither in the rows nor in the log.
    have hwait : Tallied records { s with clock } := ⟨hbefore.rows, hbefore.fresh⟩
    exact hwait.step (Store.Reachable.wait clock before.reachable).sound i hlast

/-- Over every run in which all that moves a counter is logged: every stored row can be told
    from the log and from what was answered. -/
theorem Run.replays {records : List Record} {s : Store} (hrun : Run records s)
    (hlogged : ∀ r ∈ records, r.operation.isLogged = true) {key : Key} {row : Sequence}
    (hrow : s.row? key = some row) : ∃ id, row.id = some id ∧ Replays records s row id := by
  have hsound := hrun.reachable.sound
  obtain ⟨id, hid, -⟩ := hsound.rows.identified hrow
  have htold := (hrun.tallied hlogged).rows hrow hid
  have hordered : (s.entriesOf id).Pairwise fun a b => a.id.getD 0 < b.id.getD 0 :=
    hsound.log.ordered.filter _
  refine ⟨id, hid, ?_, ?_, htold.version, htold.issued⟩
  · rw [LogEntry.newest_eq_getLast? hordered, htold.current, List.getLast?_map]
    cases (s.entriesOf id).getLast? <;> rfl
  · rw [LogEntry.newest_eq_getLast? (hordered.filter _), htold.lastResetAt, List.getLast?_map]

/-- A sequence that was made and then set to seven. -/
theorem Run.replays_invoices :
    let i : Issuer := ⟨.empty, .utc⟩
    let start : Moment := ⟨0, none, false⟩
    let draft : Issuer.Draft :=
      { tenant := .text "acme", name := .text "invoices", pattern := "INV-\x7bCOUNTER\x7d" }
    let create : Operation := .create draft none
    let count : Operation := .edit (.overrideRow ("acme", "invoices") 7 .none .none none)
    let s := Store.new .memory 5000 start
    let s₁ := (create.run i { s with clock := start }).2
    let records : List Record := [
      ⟨{ s with clock := start }, create, (create.run i { s with clock := start }).1⟩,
      ⟨{ s₁ with clock := start }, count, (count.run i { s₁ with clock := start }).1⟩]
    let s₂ := (count.run i { s₁ with clock := start }).2
    Run records s₂ ∧ (∀ r ∈ records, r.operation.isLogged = true) ∧
      ∃ row, s₂.row? ("acme", "invoices") = some row ∧ row.current = 7 ∧
        ∃ id, row.id = some id ∧ Replays records s₂ row id := by
  intro i start draft create count s s₁ records s₂
  have hrun : Run records s₂ := .step i start count (.step i start create (.new 5000 start))
  have hlogged : ∀ r ∈ records, r.operation.isLogged = true := by
    intro r hr
    rcases List.mem_cons.mp hr with rfl | hr
    · rfl
    · rw [List.mem_singleton.mp hr]
      rfl
  have hcounter : (s₂.row? ("acme", "invoices")).map (·.current) = some 7 := by decide +kernel
  obtain ⟨row, hrow, hcurrent⟩ := Option.map_eq_some_iff.mp hcounter
  exact ⟨hrun, hlogged, row, hrow, hcurrent, hrun.replays hlogged hrow⟩

end SerialNumbers
