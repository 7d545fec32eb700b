/-
  SerialNumbers.Proofs.Store.Isolation

  Sequences do not see each other.  All that an edit takes from the store is
  its own row, the clock, and what the log has about its own sequence; so an
  edit on another row, whether it succeeds or fails, is no matter to what it
  answers and what it leaves (`Store.Sound.run_edit_after`).

  Main statement: two edits on different rows can be done in either order, and
  no operation reaches the row or the entries of a sequence that it is not on
  (`Store.Reachable.isolated`).
-/
import SerialNumbers.Proofs.Store.Frame

namespace SerialNumbers

open Time

/-! ## What an edit takes from the log -/

/-- Items that are known to be left out need not be tested. -/
theorem filterAuxM_filter {α : Type} {p : α → Except Failure Bool} {q : α → Bool}
    {l acc : List α} (h : ∀ a ∈ l, q a = false → p a = .ok false) :
    (l.filter q).filterAuxM p acc = l.filterAuxM p acc := by
  induction l generalizing acc with
  | nil => rfl
  | cons a rest ih =>
    have hrest : ∀ a ∈ rest, q a = false → p a = .ok false := fun a ha =>
      h a (List.mem_cons_of_mem _ ha)
    rw [List.filter_cons]
    cases hq : q a with
    | true =>
      rw [if_pos rfl]
      unfold List.filterAuxM
      congr 1
      funext keep
      exact ih hrest
    | false =>
      -- The item is tested on one side only, and is not kept there.
      rw [if_neg Bool.false_ne_true, ih hrest]
      conv => rhs; unfold List.filterAuxM
      rw [h a List.mem_cons_self hq]
      rfl

/-- Two logs that say the same of a sequence. -/
def SameEntries (id : Int) (log log' : List LogEntry) : Prop :=
  log.filter (·.sequenceId == id) = log'.filter (·.sequenceId == id)

theorem LogFilter.apply_congr {f : LogFilter} {id : Int} (hid : f.sequenceId = some id)
    {log log' : List LogEntry} (h : SameEntries id log log') : f.apply log = f.apply log' := by
  have hown (log : List LogEntry) :
      (log.filter (·.sequenceId == id)).filterM f.accepts = log.filterM f.accepts := by
    unfold List.filterM
    rw [filterAuxM_filter]
    intro e _ hother
    exact f.accepts_other hid (by simpa using hother)
  unfold apply
  rw [← hown log, ← hown log', h]

theorem Issuer.unissued_eq (i : Issuer) (now : Moment) {row : Sequence} {id : Int}
    (hid : row.id = some id) {log log' : List LogEntry} (h : SameEntries id log log') :
    i.unissued now log row = i.unissued now log' row := by
  unfold unissued
  cases hf : i.issuedFilter row now with
  | error e => rfl
  | ok f =>
    have hsequence : f.sequenceId = some id := (issuedFilter_eq_ok hf).1.trans hid
    rw [Except.ok_bind, Except.ok_bind, LogFilter.apply_congr hsequence h]

/-! ## What an edit comes to -/

/-- The row that is left by work on a row. -/
def Edited.left (row : Sequence) : Except Failure Edited → Sequence
  | .ok done => done.row
  | .error _ => row

/-- The entries that are written by work on a row. -/
def Edited.written : Except Failure Edited → List LogEntry
  | .ok done => done.entries
  | .error _ => []

namespace Edit

variable {i : Issuer} {clock : Moment} {log log' : List LogEntry} {row : Sequence}

/-- What an edit comes to on a row, when it is not kept waiting. -/
def outcome (i : Issuer) (clock : Moment) (log : List LogEntry) (row : Sequence) (e : Edit) :
    Except Failure Edited := do
  let work ← e.prepare i clock
  work clock log row

/-- An edit comes to the same with every log that says the same of its sequence. -/
theorem outcome_congr {e : Edit} {id : Int} (hid : row.id = some id)
    (h : SameEntries id log log') : e.outcome i clock log row = e.outcome i clock log' row := by
  cases e with
  | override row₀ value reason causer now =>
    -- The number is looked for with the counter already set, on the same sequence.
    have hset : (row.overridden value (now.getD clock)).id = some id := hid
    show (Inside.override _ _ _ _ _).work _ _ log _ = (Inside.override _ _ _ _ _).work _ _ log' _
    rw [override_work, override_work, i.unissued_eq _ hset h]
  | generate row₀ c causer now =>
    unfold outcome
    cases hprepare : (generate row₀ c causer now).prepare i clock with
    | error failure => rfl
    | ok work =>
      obtain ⟨t, -, rfl⟩ := prepare_generate_eq_ok hprepare
      rfl
  | increment key now => rfl
  | reset row₀ reason causer now => rfl
  | resetRow key reason causer now => rfl
  | overrideRow key value reason causer now => rfl
  | update key expected changes => rfl

theorem about_of_outcome {e : Edit} {id : Int} (hid : row.id = some id) :
    ∀ entry ∈ Edited.written (e.outcome i clock log row), entry.sequenceId = id := by
  intro entry hentry
  cases houtcome : e.outcome i clock log row with
  | error failure =>
    rw [houtcome] at hentry
    exact absurd hentry List.not_mem_nil
  | ok done =>
    rw [houtcome] at hentry
    obtain ⟨work, hprepare, hwork⟩ := Except.bind_eq_ok.mp houtcome
    rw [(e.makes hprepare hwork).about entry hentry, hid]
    rfl

end Edit

namespace Store

/-! ## Running an edit -/

theorem perform_clock (key : Key) (work : Work) (s : Store) :
    (s.perform key work).2.clock = s.clock := by
  have hlock : (s.lockOf key).2.clock = s.clock := lockOf_clock s key
  rcases perform_store_cases key work s with hs | hs | hs | ⟨row, done, hsettle⟩
  · rw [hs]
  · rw [hs]
    exact hlock
  · rw [hs]
    exact hlock
  · rw [eq_of_settle hsettle]
    exact hlock

/-- No edit changes the time. -/
theorem clock_run (i : Issuer) (e : Edit) (s : Store) : (e.run i s).2.clock = s.clock := by
  have hquiet : (e.run i s).2.quiet.clock = (e.perform i s).2.quiet.clock := by
    rw [(e.run_alike i s).2]
  have halike : (e.run i s).2.clock = (e.perform i s).2.clock := hquiet
  rw [halike]
  cases hprepare : e.prepare i s.clock with
  | error failure => rw [e.perform_of_error hprepare]
  | ok work => rw [e.perform_of_ok hprepare, perform_clock]

/-- An edit on a row that is there answers what it comes to, and leaves that. -/
theorem Sound.run_edit {s : Store} (hs : s.Sound) (i : Issuer) {e : Edit} {row : Sequence}
    (hrow : s.row? e.key = some row) :
    (e.run i s).1 = (e.outcome i s.clock s.entries row).map (·.answer) ∧
      s.Changed e.key (some (Edited.left row (e.outcome i s.clock s.entries row)))
        (Edited.written (e.outcome i s.clock s.entries row)) 0 (e.run i s).2 := by
  have hkey := hs.rows.keyed hrow
  have hanswer : (e.run i s).1 = (e.outcome i s.clock s.entries row).map (·.answer) := by
    rw [Edit.run_answer hs.memory (isBusy_of_free hs.free e.key) hrow hkey]
    unfold Edit.outcome
    cases e.prepare i s.clock with
    | error failure => rfl
    | ok work =>
      rw [Except.ok_bind, Except.ok_bind]
      cases work s.clock s.entries row <;> rfl
  refine ⟨hanswer, ?_⟩
  rcases e.run_cases i s with ⟨failure, herr, hsame⟩ |
    ⟨work, row', done, hprepare, hrow', hwork, -, hsettled⟩
  · rw [herr] at hanswer
    cases houtcome : e.outcome i s.clock s.entries row with
    | error failure' =>
      rw [← show s.row? e.key = some (Edited.left row (.error failure')) from hrow]
      exact hsame.changed e.key
    | ok done =>
      rw [houtcome] at hanswer
      cases hanswer
  -- There is one row under the key, so what was done is what the edit comes to.
  · rw [hrow] at hrow'
    cases hrow'
    have houtcome : e.outcome i s.clock s.entries row = .ok done :=
      Except.bind_eq_ok.mpr ⟨work, hprepare, hwork⟩
    rw [houtcome, ← hkey]
    exact hsettled

/-- An edit on another row, whatever becomes of it, is no matter to what an edit answers and to what
    it leaves. -/
theorem Sound.run_edit_after {s : Store} (hs : s.Sound) (i j : Issuer) {a b : Edit}
    {row : Sequence} (hne : a.key ≠ b.key) (hrow : s.row? b.key = some row) :
    (b.run j (a.run i s).2).1 = (b.run j s).1 ∧
      (a.run i s).2.Changed b.key (some (Edited.left row (b.outcome j s.clock s.entries row)))
        (Edited.written (b.outcome j s.clock s.entries row)) 0 (b.run j (a.run i s).2).2 := by
  have hother : (Operation.edit a).subject? ≠ some b.key := fun h => hne (Option.some.inj h)
  obtain ⟨hkept, hentries⟩ := hs.untouched i hrow hother
  obtain ⟨id, hid, -⟩ := hs.rows.identified hrow
  -- The first edit leaves the other row, its entries and the clock.
  have hsame : SameEntries id (a.run i s).2.entries s.entries := by
    refine hentries id hid ?_
    rintro entry ⟨⟩
  have hsound : (a.run i s).2.Sound := hs.run i (.edit a)
  obtain ⟨hanswer, hchanged⟩ := hsound.run_edit j hkept
  rw [clock_run, Edit.outcome_congr hid hsame] at hanswer hchanged
  exact ⟨hanswer.trans (hs.run_edit j hrow).1.symm, hchanged⟩

/-! ## Either order -/

/-- Two edits on two rows can be done in either order: each answers what it answers by itself, the
    rows are the same, and the logs are but for the order of what the two have written. -/
structure Interchange (s : Store) (i j : Issuer) (a b : Edit) (row₁ row₂ : Sequence) : Prop where
  first : (a.run i (b.run j s).2).1 = (a.run i s).1
  second : (b.run j (a.run i s).2).1 = (b.run j s).1
  rows : ∀ key, (b.run j (a.run i s).2).2.row? key = (a.run i (b.run j s).2).2.row? key
  log : ∃ one two, (∀ e ∈ one, row₁.id = some e.sequenceId) ∧
    (∀ e ∈ two, row₂.id = some e.sequenceId) ∧
    (b.run j (a.run i s).2).2.entries = s.entries ++ numbered s.nextEntryId (one ++ two) ∧
    (a.run i (b.run j s).2).2.entries = s.entries ++ numbered s.nextEntryId (two ++ one)
  nextEntryId : (b.run j (a.run i s).2).2.nextEntryId = (a.run i (b.run j s).2).2.nextEntryId
  nextId : (b.run j (a.run i s).2).2.nextId = (a.run i (b.run j s).2).2.nextId

/-- Entries of two changes follow the log one after the other. -/
theorem Changed.entries_trans {s t u : Store} {key key' : Key} {row row' : Option Sequence}
    {one two : List LogEntry} {made made' : Nat} (h : s.Changed key row one made t)
    (h' : t.Changed key' row' two made' u) :
    u.entries = s.entries ++ numbered s.nextEntryId (one ++ two) := by
  rw [h'.entries, h.entries, h.nextEntryId, numbered_append, List.append_assoc]

theorem Sound.interchange {s : Store} (hs : s.Sound) (i j : Issuer) {a b : Edit}
    {row₁ row₂ : Sequence} (hne : a.key ≠ b.key) (hrow₁ : s.row? a.key = some row₁)
    (hrow₂ : s.row? b.key = some row₂) : Interchange s i j a b row₁ row₂ := by
  obtain ⟨-, ha⟩ := hs.run_edit i hrow₁
  obtain ⟨-, hb⟩ := hs.run_edit j hrow₂
  obtain ⟨hsecond, hab⟩ := hs.run_edit_after i j hne hrow₂
  obtain ⟨hfirst, hba⟩ := hs.run_edit_after j i (Ne.symm hne) hrow₁
  obtain ⟨id₁, hid₁, -⟩ := hs.rows.identified hrow₁
  obtain ⟨id₂, hid₂, -⟩ := hs.rows.identified hrow₂
  refine ⟨hfirst, hsecond, ?_, ⟨_, _, ?_, ?_, ha.entries_trans hab, hb.entries_trans hba⟩, ?_, ?_⟩
  · intro key
    rw [hab.row?, ha.row?, hba.row?, hb.row?]
    -- A key is that of one edit, of the other, or of none, but not of both.
    by_cases hkey₁ : key = a.key
    · subst hkey₁
      rw [beq_self_eq_true, beq_eq_false_iff_ne.mpr hne]
      rfl
    · rw [beq_eq_false_iff_ne.mpr hkey₁]
      rfl
  · intro e he
    rw [hid₁, Edit.about_of_outcome hid₁ e he]
  · intro e he
    rw [hid₂, Edit.about_of_outcome hid₂ e he]
  · rw [hab.nextEntryId, ha.nextEntryId, hba.nextEntryId, hb.nextEntryId]
    omega
  · rw [hab.nextId, ha.nextId, hba.nextId, hb.nextId]

/-! ## Isolation -/

/-- What is left alone by an operation on the row of a key: all other rows, and all entries about
    other sequences, be they in the store or not. -/
structure LeavesOthers (s : Store) (key : Key) (s' : Store) : Prop where
  rows : ∀ k, k ≠ key → s'.row? k = s.row? k
  entries : ∀ id, (∀ row, s.row? key = some row → row.id ≠ some id) →
    s'.entriesOf id = s.entriesOf id

theorem Sound.leavesOthers {s : Store} (hs : s.Sound) (i : Issuer) {op : Operation} {key : Key}
    (hop : op.subject? = some key) : s.LeavesOthers key (op.run i s).2 := by
  obtain ⟨new, added, hchanged, -, habout⟩ := hs.acts i hop
  refine ⟨?_, ?_⟩
  · intro k hk
    rw [hchanged.row?, if_neg (by simpa using hk)]
  · intro id hother
    refine hchanged.entriesOf_other ?_
    intro e he heq
    obtain ⟨row, hrow, hid⟩ := habout e he
    exact hother row hrow (heq ▸ hid)

/-- In every reachable store: two edits on different keys with rows can be done in either order,
    whatever becomes of them; an operation on the row of a key leaves all other rows and all entries
    about other sequences alone; and a row that is there stays as it is with every operation that is
    not on it. -/
theorem Reachable.isolated {s : Store} (hs : s.Reachable) (i j : Issuer) :
    (∀ {a b : Edit} {row₁ row₂}, a.key ≠ b.key → s.row? a.key = some row₁ →
      s.row? b.key = some row₂ → Interchange s i j a b row₁ row₂) ∧
    (∀ {op : Operation} {key}, op.subject? = some key → s.LeavesOthers key (op.run i s).2) ∧
    ∀ {op : Operation} {key row}, s.row? key = some row → op.subject? ≠ some key →
      (op.run i s).2.row? key = some row := by
  have hsound := hs.sound
  refine ⟨?_, ?_, ?_⟩
  · intro a b row₁ row₂ hne hrow₁ hrow₂
    exact hsound.interchange i j hne hrow₁ hrow₂
  · intro op key hop
    exact hsound.leavesOthers i hop
  · intro op key row hrow hop
    exact (hsound.untouched i hrow hop).1

/-- Two tenants that share a name and a pattern: one sets its counter, the other issues a number. -/
theorem Reachable.isolated_same_name :
    let i : Issuer := ⟨.empty, .utc⟩
    let start : Moment := ⟨0, none, false⟩
    let row (tenant : String) : Sequence := ⟨none, tenant, "invoices", "INV-\x7bCOUNTER\x7d", .never,
      none, 5, 1, 0, none, 0, [], start, start⟩
    let s₁ := ((Operation.insert (row "acme")).run i (.new .memory 5000 start)).2
    let s := ((Operation.insert (row "globex")).run i s₁).2
    let a : Edit := .override (row "acme") 7 .none .none none
    let b : Edit := .generate (row "globex") .empty .none none
    s.Reachable ∧ a.key ≠ b.key ∧
      ((b.run i (a.run i s).2).2.row? a.key).map (·.current) = some 7 ∧
      ((b.run i (a.run i s).2).2.row? b.key).map (·.current) = some 1 ∧
      (b.run i (a.run i s).2).2.entries.map (·.sequenceId) = [1, 2] ∧
      (∃ row₁ row₂, s.row? a.key = some row₁ ∧ s.row? b.key = some row₂ ∧
        Interchange s i i a b row₁ row₂) ∧
      s.LeavesOthers a.key (a.run i s).2 := by
  intro i start row s₁ s a b
  have hs : s.Reachable := .run i (.insert (row "globex"))
    (.run i (.insert (row "acme")) (.new 5000 start))
  have hne : a.key ≠ b.key := by decide
  have hrow₁ : (s.row? a.key).isSome = true := by decide +kernel
  have hrow₂ : (s.row? b.key).isSome = true := by decide +kernel
  obtain ⟨row₁, hrow₁⟩ := Option.isSome_iff_exists.mp hrow₁
  obtain ⟨row₂, hrow₂⟩ := Option.isSome_iff_exists.mp hrow₂
  obtain ⟨horder, hleaves, -⟩ := hs.isolated i i
  exact ⟨hs, hne, by decide +kernel, by decide +kernel, by decide +kernel,
    ⟨row₁, row₂, hrow₁, hrow₂, horder hne hrow₁ hrow₂⟩, @hleaves (.edit a) _ rfl⟩

end Store

end SerialNumbers
