/-
  SerialNumbers.Proofs.Store.Transition

  The law by which a row changes.  Each edit is of one of five kinds, and its
  kind says what becomes of every field: of the counter, of the last reset, and
  of the version; the configuration changes by updates only, and what makes a
  row the sequence that it is does not change at all (`Transition`).

  Main statement: every edit that succeeds in a reachable store follows the law,
  a number that is issued under a limit stays within a step of it, and no other
  operation moves a row in a way that the law does not allow
  (`Store.Regular.edits_follow_law`).
-/
import SerialNumbers.Proofs.Lookahead
import SerialNumbers.Proofs.Store.Frame
import SerialNumbers.Proofs.Store.Valid

namespace SerialNumbers

open Time

/-! ## Counters by kinds of edits -/

namespace Edit.Kind

/-- The counter starts again: by hand, or because a reset is due when a number is issued. -/
def restarts (i : Issuer) (now : Moment) (row : Sequence) : Kind → Bool
  | restart => true
  | issue => (row.resetDue i.zone now).toOption.getD false
  | count | override _ | update => false

/-- The counter value that is left, when the counter starts again and when it does not. -/
def counter (again : Bool) (row : Sequence) : Kind → Int
  | count => row.current + row.step
  | issue => if again then row.step else row.current + row.step
  | restart => 0
  | override value => value
  | update => row.current

/-- A counter goes down only when it starts again or is set. -/
theorem restarts_of_counter_lt {i : Issuer} {now : Moment} {row : Sequence} {kind : Kind}
    (hstep : 1 ≤ row.step) (h : kind.counter (kind.restarts i now row) row < row.current) :
    kind.restarts i now row = true ∨ ∃ value, kind = .override value := by
  cases kind with
  | count =>
    have hlt : row.current + row.step < row.current := h
    omega
  | issue =>
    cases hagain : issue.restarts i now row with
    | true => exact .inl rfl
    | false =>
      rw [hagain] at h
      have hlt : row.current + row.step < row.current := h
      omega
  | restart => exact .inl rfl
  | override value => exact .inr ⟨value, rfl⟩
  | update => exact absurd h (Int.lt_irrefl row.current)

end Edit.Kind

/-! ## The law -/

/-- The same rules of counting and writing numbers. -/
structure Sequence.SameConfiguration (row row' : Sequence) : Prop where
  pattern : row'.pattern = row.pattern
  period : row'.period = row.period
  limit : row'.limit = row.limit
  padding : row'.padding = row.padding
  step : row'.step = row.step
  metadata : row'.metadata = row.metadata

/-- What an edit of a kind makes of a row at a time. -/
structure Transition (i : Issuer) (now : Moment) (kind : Edit.Kind) (row row' : Sequence) :
    Prop where
  identity : row.SameIdentity row'
  configuration : kind ≠ .update → row.SameConfiguration row'
  current : row'.current = kind.counter (kind.restarts i now row) row
  lastResetAt : row'.lastResetAt = if kind.restarts i now row then some now else row.lastResetAt
  version : row'.version =
    row.version + if kind = .issue ∧ kind.restarts i now row = true then 2 else 1
  updatedAt : row'.updatedAt = now

namespace Sequence

variable (i : Issuer) (row : Sequence) (now : Moment)

theorem sameConfiguration_refl : row.SameConfiguration row := ⟨rfl, rfl, rfl, rfl, rfl, rfl⟩

theorem transition_counted : Transition i now .count row (row.counted now) :=
  ⟨row.sameIdentity_counted now, fun _ => ⟨rfl, rfl, rfl, rfl, rfl, rfl⟩, rfl, rfl, rfl, rfl⟩

theorem transition_restarted : Transition i now .restart row (row.restarted now) :=
  ⟨row.sameIdentity_restarted now, fun _ => ⟨rfl, rfl, rfl, rfl, rfl, rfl⟩, rfl, rfl, rfl, rfl⟩

theorem transition_overridden (value : Int) :
    Transition i now (.override value) row (row.overridden value now) :=
  ⟨row.sameIdentity_overridden value now, fun _ => ⟨rfl, rfl, rfl, rfl, rfl, rfl⟩, rfl, rfl, rfl,
    rfl⟩

theorem transition_changed {row' : Sequence} {changes : List (String × Value)}
    (h : row.changed changes now = .ok row') : Transition i now .update row row' := by
  have hkept := changed_eq_ok h
  exact ⟨hkept.sameIdentity, fun hne => absurd rfl hne, hkept.current, hkept.lastResetAt,
    hkept.version, updatedAt_of_changed h⟩

end Sequence

namespace Inside.Issues

variable {i : Issuer} {c : Context} {now : Moment} {row : Sequence} {reason : Option String}
  {number : String} {done : Edited}

theorem resetDue (h : Issues i c now row reason number done) :
    row.resetDue i.zone now = .ok reason.isSome :=
  (Sequence.resetDue_of_reason h.due).1

theorem restarts (h : Issues i c now row reason number done) :
    Edit.Kind.issue.restarts i now row = reason.isSome := by
  unfold Edit.Kind.restarts
  rw [h.resetDue]
  rfl

theorem transition (h : Issues i c now row reason number done) :
    Transition i now .issue row done.row := by
  have hagain := h.restarts
  rw [h.row]
  -- The row is restarted first if there is a reason to, and counted up in either case.
  refine ⟨(row.sameIdentity_readied reason now).trans (Sequence.sameIdentity_counted _ now),
    fun _ => ?_, ?_, ?_, ?_, rfl⟩
  · cases reason <;> exact ⟨rfl, rfl, rfl, rfl, rfl, rfl⟩
  · rw [hagain]
    cases reason with
    | none => rfl
    | some text =>
      show 0 + row.step = row.step
      exact Int.zero_add _
  · rw [hagain]
    cases reason <;> rfl
  · rw [hagain]
    cases reason with
    | none => rfl
    | some text =>
      show row.version + 1 + 1 = row.version + 2
      omega

/-- Under a limit a number is at least a step, and less than a step beyond the limit. -/
theorem within_limit (h : Issues i c now row reason number done) (hrow : row.Valid) {limit : Int}
    (hlimit : row.limit = some limit) :
    row.step ≤ done.row.current ∧ done.row.current ≤ limit - 1 + row.step := by
  have hpositive := hrow.limit limit hlimit
  have hcurrent := hrow.current
  have hcounter := h.transition.current
  rw [h.restarts] at hcounter
  cases reason with
  | some text =>
    -- The counter has started again, and the limit is at least one.
    have hcounter : done.row.current = row.step := hcounter
    omega
  | none =>
    have hcounter : done.row.current = row.current + row.step := hcounter
    -- No reset was due, so the limit was not reached before.
    obtain ⟨byTime, -, hdue⟩ := Except.bind_eq_ok.mp h.resetDue
    have hnot : (byTime || row.tally.dueByCount row.limit) = false := Except.ok.inj hdue
    have hcount : row.tally.dueByCount row.limit = false := (Bool.or_eq_false_iff.mp hnot).2
    unfold Tally.dueByCount at hcount
    rw [hlimit] at hcount
    have hlt : ¬ limit ≤ row.current := of_decide_eq_false hcount
    omega

end Inside.Issues

namespace Edit

variable {i : Issuer} {e : Edit} {clock : Moment} {log : List LogEntry} {row : Sequence}
  {done : Edited} {work : Work}

/-- Work that succeeds follows the law. -/
theorem transition (hprepare : e.prepare i clock = .ok work)
    (hwork : work clock log row = .ok done) :
    Transition i (e.time clock) e.kind row done.row := by
  cases does hprepare hwork with
  | counted => exact row.transition_counted i _
  | issued hissues => exact hissues.transition
  | restarted hkind habout =>
    rw [hkind]
    exact row.transition_restarted i _
  | @overridden _ _ value hkind hvalue habout =>
    rw [hkind]
    exact row.transition_overridden i _ value
  | reconfigured hchanged => exact row.transition_changed i clock hchanged

/-- Issuing answers the counter that is left, and keeps it within a step of a limit. -/
theorem issued_within (hprepare : e.prepare i clock = .ok work)
    (hwork : work clock log row = .ok done) (hkind : e.kind = .issue) (hrow : row.Valid) :
    ∃ issued, done.answer = .number issued ∧ issued.counter = done.row.current ∧
      ∀ limit ∈ row.limit, row.step ≤ issued.counter ∧ issued.counter ≤ limit - 1 + row.step := by
  cases does hprepare hwork with
  | issued hissues =>
    exact ⟨_, hissues.answer, rfl, fun limit hlimit => hissues.within_limit hrow hlimit⟩
  | counted => cases hkind
  | reconfigured hchanged => cases hkind
  | restarted hrestart habout =>
    rw [hrestart] at hkind
    cases hkind
  | overridden hoverride hvalue habout =>
    rw [hoverride] at hkind
    cases hkind

end Edit

/-! ## Blocks -/

namespace Call

variable (clock : Moment)

theorem sameConfiguration_changes (row : Sequence) (calls : List Call) :
    row.SameConfiguration (changes clock row calls) := by
  induction calls generalizing row with
  | nil => exact row.sameConfiguration_refl
  | cons call rest ih =>
    have hcall : row.SameConfiguration (call.change clock row) := by
      cases call <;> exact ⟨rfl, rfl, rfl, rfl, rfl, rfl⟩
    have hrest := ih (call.change clock row)
    exact ⟨hrest.pattern.trans hcall.pattern, hrest.period.trans hcall.period,
      hrest.limit.trans hcall.limit, hrest.padding.trans hcall.padding,
      hrest.step.trans hcall.step, hrest.metadata.trans hcall.metadata⟩

/-- Without a reset among the calls the last reset is the one that it was. -/
theorem lastResetAt_changes (row : Sequence) {calls : List Call}
    (hreset : ∀ now, reset now ∉ calls) :
    (changes clock row calls).lastResetAt = row.lastResetAt := by
  induction calls generalizing row with
  | nil => rfl
  | cons call rest ih =>
    have hrest := ih (call.change clock row) fun now hmem => hreset now (List.mem_cons_of_mem _ hmem)
    refine hrest.trans ?_
    cases call with
    | reset now => exact absurd List.mem_cons_self (hreset now)
    | increment now => rfl
    | override value now => rfl
    | log entry => rfl

/-- Without a reset and an override among the calls the counter does not go down. -/
theorem current_le_changes {row : Sequence} (hstep : 1 ≤ row.step) {calls : List Call}
    (hreset : ∀ now, reset now ∉ calls) (hoverride : ∀ value now, override value now ∉ calls) :
    row.current ≤ (changes clock row calls).current := by
  induction calls generalizing row with
  | nil => exact Int.le_refl _
  | cons call rest ih =>
    have hreset' : ∀ now, reset now ∉ rest := fun now hmem =>
      hreset now (List.mem_cons_of_mem _ hmem)
    have hoverride' : ∀ value now, override value now ∉ rest := fun value now hmem =>
      hoverride value now (List.mem_cons_of_mem _ hmem)
    cases call with
    | reset now => exact absurd List.mem_cons_self (hreset now)
    | override value now => exact absurd List.mem_cons_self (hoverride value now)
    | log entry => exact ih hstep hreset' hoverride'
    | increment now =>
      -- The step is not changed by counting, so the induction goes on from the counted row.
      have hrest : row.current + row.step ≤ _ :=
        @ih (row.counted (now.getD clock)) hstep hreset' hoverride'
      exact Int.le_trans (by omega) hrest

end Call

/-! ## Every operation -/

namespace Operation

/-- The operation starts the counter of its row again. -/
def Restarts (i : Issuer) (clock : Moment) (row : Sequence) : Operation → Prop
  | edit e => e.kind.restarts i (e.time clock) row = true
  | block _ calls _ => ∃ now, Call.reset now ∈ calls
  | create .. | insert .. | delete .. | append .. => False

/-- The operation sets the counter of its row. -/
def Sets : Operation → Prop
  | edit e => ∃ value, e.kind = .override value
  | block _ calls _ => ∃ value now, Call.override value now ∈ calls
  | create .. | insert .. | delete .. | append .. => False

/-- The operation changes the configuration of its row. -/
def Updates : Operation → Prop
  | edit e => e.kind = .update
  | create .. | insert .. | delete .. | append .. | block .. => False

/-- What no operation does to a row but those that are meant to. -/
structure Respects (i : Issuer) (clock : Moment) (op : Operation) (row row' : Sequence) : Prop where
  identity : row.SameIdentity row'
  configuration : ¬ op.Updates → row.SameConfiguration row'
  lastResetAt : ¬ op.Restarts i clock row → row'.lastResetAt = row.lastResetAt
  current : ¬ op.Restarts i clock row → ¬ op.Sets → row.current ≤ row'.current

theorem respects_refl (i : Issuer) (clock : Moment) (op : Operation) (row : Sequence) :
    op.Respects i clock row row :=
  ⟨row.sameIdentity_refl, fun _ => row.sameConfiguration_refl, fun _ => rfl,
    fun _ _ => Int.le_refl _⟩

end Operation

theorem Transition.respects {i : Issuer} {clock : Moment} {e : Edit} {row row' : Sequence}
    (h : Transition i (e.time clock) e.kind row row') (hstep : 1 ≤ row.step) :
    (Operation.edit e).Respects i clock row row' := by
  refine ⟨h.identity, h.configuration, ?_, ?_⟩
  · intro hnot
    have hnot : ¬ e.kind.restarts i (e.time clock) row = true := hnot
    rw [h.lastResetAt, if_neg hnot]
  · intro hnot hset
    rw [h.current]
    refine Int.not_lt.mp fun hlt => ?_
    rcases Edit.Kind.restarts_of_counter_lt hstep hlt with hagain | hvalue
    · exact hnot hagain
    · exact hset hvalue

theorem Operation.respects_block (i : Issuer) (clock : Moment) (key : Key) (calls : List Call)
    (leave : Option Failure) {row : Sequence} (hstep : 1 ≤ row.step) :
    (Operation.block key calls leave).Respects i clock row (Call.changes clock row calls) := by
  refine ⟨Call.sameIdentity_changes clock row calls,
    fun _ => Call.sameConfiguration_changes clock row calls, ?_, ?_⟩
  · intro hreset
    exact Call.lastResetAt_changes clock row fun now hmem => hreset ⟨now, hmem⟩
  · intro hreset hset
    exact Call.current_le_changes clock hstep (fun now hmem => hreset ⟨now, hmem⟩)
      fun value now hmem => hset ⟨value, now, hmem⟩

namespace Store

/-- An operation on the row of a key does only what it is meant to. -/
theorem Regular.respects {s : Store} (hs : s.Regular) (i : Issuer) {op : Operation} {key : Key}
    (hop : op.subject? = some key) {row row' : Sequence} (hrow : s.row? key = some row)
    (hrow' : (op.run i s).2.row? key = some row') : op.Respects i s.clock row row' := by
  have hstep := (hs.valid hrow).step
  have hkey := hs.reachable.sound.rows.keyed hrow
  -- What a change puts in the place of the key is the row that is there then.
  have hplace {new : Option Sequence} {added : List LogEntry} {made : Nat} {t : Store}
      (h : s.Changed key new added made t) : t.row? key = new := by
    rw [h.row?, if_pos (beq_self_eq_true key)]
  rcases op.run_cases i s with ⟨_, _, hsame⟩ | ⟨answer, _, heffect⟩
  · rw [hsame.row?, hrow, Option.some.injEq] at hrow'
    exact hrow' ▸ op.respects_refl i s.clock row
  · generalize (op.run i s).2 = t at heffect hrow'
    cases heffect with
    | create => cases hop
    | insert => cases hop
    | append => cases hop
    | delete hchanged =>
      cases hop
      rw [hplace hchanged] at hrow'
      cases hrow'
    | edit hprepared hread hworked hchanged =>
      cases hop
      rw [hrow] at hread
      cases hread
      rw [hkey] at hchanged
      rw [hplace hchanged] at hrow'
      cases hrow'
      exact (Edit.transition hprepared hworked).respects hstep
    | block hallowed hread hchanged =>
      cases hop
      rw [hrow] at hread
      cases hread
      rw [hplace (hchanged hkey)] at hrow'
      cases hrow'
      exact Operation.respects_block i s.clock key _ _ hstep

/-- In every store that is reached with valid rows: an edit that succeeds follows the law, and a
    number that it issues under a limit lies between the step and one step beyond the last value
    below the limit; and whatever is done, a row that stays is the same sequence, its
    configuration changes by updates only, its last reset by what starts the counter again, its
    counter goes down only by that or by being set, and a row that an operation is not on does not
    change. -/
theorem Regular.edits_follow_law {s : Store} (hs : s.Regular) (i : Issuer) :
    (∀ {e : Edit} {answer}, (e.run i s).1 = .ok answer →
      ∃ row row', s.row? e.key = some row ∧ (e.run i s).2.row? e.key = some row' ∧
        Transition i (e.time s.clock) e.kind row row' ∧
        (e.kind = .issue → ∃ issued, answer = .number issued ∧ issued.counter = row'.current ∧
          ∀ limit ∈ row.limit,
            row.step ≤ issued.counter ∧ issued.counter ≤ limit - 1 + row.step)) ∧
    ∀ {op : Operation} {key row row'}, s.row? key = some row →
      (op.run i s).2.row? key = some row' →
        op.Respects i s.clock row row' ∧ (op.subject? ≠ some key → row' = row) := by
  have hsound := hs.reachable.sound
  refine ⟨?_, ?_⟩
  · intro e answer hans
    rcases e.run_cases i s with ⟨failure, herr, -⟩ |
      ⟨work, row, done, hprepare, hread, hwork, hdone, hsettled⟩
    · rw [herr] at hans
      cases hans
    · rw [hdone, Except.ok.injEq] at hans
      rw [hsound.rows.keyed hread] at hsettled
      refine ⟨row, done.row, hread, ?_, Edit.transition hprepare hwork, fun hkind => ?_⟩
      · rw [hsettled.row?, if_pos (beq_self_eq_true e.key)]
      · exact hans ▸ Edit.issued_within hprepare hwork hkind (hs.valid hread)
  · intro op key row row' hrow hrow'
    have hother (hop : op.subject? ≠ some key) : row' = row := by
      rw [(hsound.untouched i hrow hop).1, Option.some.injEq] at hrow'
      exact hrow'.symm
    refine ⟨?_, hother⟩
    by_cases hop : op.subject? = some key
    · exact hs.respects i hop hrow hrow'
    · rw [hother hop]
      exact op.respects_refl i s.clock row

/-- A number that is issued just below the limit, in steps of two. -/
theorem Regular.edits_follow_law_limited :
    let i : Issuer := ⟨.empty, .utc⟩
    let start : Moment := ⟨0, none, false⟩
    let row : Sequence := ⟨none, "acme", "invoices", "INV-\x7bCOUNTER\x7d", .never, some 3, 5, 2, 2,
      none, 0, [], start, start⟩
    let s := ((Operation.insert row).run i (.new .memory 5000 start)).2
    let e : Edit := .generate row .empty .none none
    s.Regular ∧ ∃ stored row' issued, s.row? row.key = some stored ∧
      (e.run i s).1 = .ok (.number issued) ∧ (e.run i s).2.row? row.key = some row' ∧
      Transition i start .issue stored row' ∧ issued.counter = row'.current ∧ row'.current = 4 ∧
      (∀ limit ∈ stored.limit,
        stored.step ≤ issued.counter ∧ issued.counter ≤ limit - 1 + stored.step) ∧
      (Operation.edit e).Respects i start stored row' := by
  intro i start row s e
  have hrow : row.Valid := by constructor <;> decide
  have hs : s.Regular := .run i hrow (.new 5000 start)
  have hdone : (e.run i s).1.toOption.isSome = true := by decide +kernel
  have hcounter : ((e.run i s).2.row? row.key).map (·.current) = some 4 := by decide +kernel
  obtain ⟨answer, hdone⟩ := Option.isSome_iff_exists.mp hdone
  obtain ⟨hlaw, hall⟩ := hs.edits_follow_law i
  obtain ⟨stored, row', hstored, hleft, htransition, hwithin⟩ := hlaw (Except.eq_ok_of_toOption hdone)
  obtain ⟨issued, rfl, hissued, hlimit⟩ := hwithin rfl
  have hfour : row'.current = 4 := by
    rw [show (e.run i s).2.row? row.key = some row' from hleft] at hcounter
    exact Option.some.inj hcounter
  exact ⟨hs, stored, row', issued, hstored, Except.eq_ok_of_toOption hdone, hleft, htransition,
    hissued, hfour, hlimit, (@hall (.edit e) _ _ _ hstored hleft).1⟩

end Store

end SerialNumbers
