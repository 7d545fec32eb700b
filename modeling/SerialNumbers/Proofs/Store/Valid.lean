/-
  SerialNumbers.Proofs.Store.Valid

  Rows keep the rules of their fields.  A sequence that was read from fields
  follows them (`Sequence.ReadFrom.valid`), and nothing that is done to a row
  breaks one.  Main statement: where no other rows were put in, all rows of a
  reachable store are valid (`Store.Regular.valid`).
-/
import SerialNumbers.Proofs.Store.Reachable

namespace SerialNumbers

open Time

namespace Sequence

/-- What the rules of its fields ask of a sequence. -/
structure Valid (s : Sequence) : Prop where
  tenant : 1 ≤ s.tenant.length
  name : 1 ≤ s.name.length ∧ s.name.length ≤ maxName
  pattern : 1 ≤ s.pattern.length ∧ s.pattern.length ≤ Pattern.maxLength
  limit : ∀ n ∈ s.limit, 0 < n
  padding : 0 ≤ s.padding ∧ s.padding ≤ maxPadding
  step : 1 ≤ s.step
  current : 0 ≤ s.current
  version : 0 ≤ s.version

/-- A sequence that was read follows the rules by which it was read. -/
theorem ReadFrom.valid {f : Fields} {now : Moment} {s : Sequence} (h : s.ReadFrom f now) :
    s.Valid := by
  refine ⟨?_, ?_, ?_, ?_, ?_, ?_, ?_, ?_⟩
  · obtain ⟨v, -, hv⟩ := Fields.require_eq_ok.mp h.tenant
    obtain ⟨v', hv'⟩ := Rule.rule_of_asText hv
    exact (Rule.length_of_textOf hv').1
  · obtain ⟨v, -, hv⟩ := Fields.require_eq_ok.mp h.name
    exact ⟨(Rule.length_of_textOf hv).1, (Rule.length_of_textOf hv).2 maxName rfl⟩
  · obtain ⟨v, -, hv⟩ := Fields.require_eq_ok.mp h.pattern
    exact ⟨(Rule.length_of_textOf hv).1, (Rule.length_of_textOf hv).2 Pattern.maxLength rfl⟩
  · intro n hn
    rw [Option.mem_def] at hn
    have hlimit := h.limit
    rw [hn] at hlimit
    rcases Fields.get_eq_ok.mp hlimit with ⟨-, hdefault⟩ | ⟨v, -, hv⟩
    · cases hdefault
    · obtain ⟨v', hv'⟩ := Rule.rule_of_optional hv
      exact Rule.lt_of_above hv'
  · rcases Fields.get_eq_ok.mp h.padding with ⟨-, hdefault⟩ | ⟨v, -, hv⟩
    · rw [← hdefault]
      decide
    · exact Rule.bounds_of_within hv
  · rcases Fields.get_eq_ok.mp h.step with ⟨-, hdefault⟩ | ⟨v, -, hv⟩
    · exact Int.le_of_eq hdefault
    · exact Rule.least_le_of_atLeast hv
  · rcases Fields.get_eq_ok.mp h.current with ⟨-, hdefault⟩ | ⟨v, -, hv⟩
    · exact Int.le_of_eq hdefault
    · exact Rule.least_le_of_atLeast hv
  · rcases Fields.get_eq_ok.mp h.version with ⟨-, hdefault⟩ | ⟨v, -, hv⟩
    · exact Int.le_of_eq hdefault
    · exact Rule.least_le_of_atLeast hv

/-! ## What is done to a row -/

section

variable {s : Sequence} (h : s.Valid)

include h

theorem Valid.nextValue_nonneg : 0 ≤ s.nextValue := by
  have hcurrent := h.current
  have hstep := h.step
  unfold nextValue
  omega

theorem Valid.counted (now : Moment) : (s.counted now).Valid :=
  ⟨h.tenant, h.name, h.pattern, h.limit, h.padding, h.step, h.nextValue_nonneg,
    Int.le_trans h.version (Int.le_of_lt (Int.lt_succ s.version))⟩

theorem Valid.overridden {value : Int} (hvalue : 0 ≤ value) (now : Moment) :
    (s.overridden value now).Valid :=
  ⟨h.tenant, h.name, h.pattern, h.limit, h.padding, h.step, hvalue,
    Int.le_trans h.version (Int.le_of_lt (Int.lt_succ s.version))⟩

theorem Valid.restarted (now : Moment) : (s.restarted now).Valid :=
  ⟨h.tenant, h.name, h.pattern, h.limit, h.padding, h.step, Int.le_refl 0,
    Int.le_trans h.version (Int.le_of_lt (Int.lt_succ s.version))⟩

theorem Valid.readied (reason : Option String) (now : Moment) : (s.readied reason now).Valid := by
  cases reason with
  | none => exact h
  | some text => exact h.restarted now

/-- The id is no matter. -/
theorem Valid.stored (store : Store) : (Operation.stored store s).Valid :=
  ⟨h.tenant, h.name, h.pattern, h.limit, h.padding, h.step, h.current, h.version⟩

end

/-- A change of configuration reads the whole row again. -/
theorem valid_of_changed {s s' : Sequence} {changes : List (String × Value)} {now : Moment}
    (h : s.changed changes now = .ok s') : s'.Valid := by
  unfold changed at h
  dsimp only at h
  split at h
  · cases h
  · exact (ofFields_eq_ok h).valid

end Sequence

theorem Issuer.Draft.valid_of_sequence {d : Issuer.Draft} {stamp : Moment} {s : Sequence}
    (h : d.sequence stamp = .ok s) : s.Valid := by
  obtain ⟨period, -, hs⟩ := Except.bind_eq_ok.mp h
  exact (Sequence.ofFields_eq_ok hs).valid

/-- No edit breaks a rule. -/
theorem Edit.valid_of_work {i : Issuer} {e : Edit} {begun clock : Moment} {log : List LogEntry}
    {row : Sequence} {done : Edited} {work : Work} (hprepare : e.prepare i begun = .ok work)
    (hwork : work clock log row = .ok done) (hrow : row.Valid) : done.row.Valid := by
  cases does hprepare hwork with
  | counted => exact hrow.counted _
  | issued hissues =>
    rw [hissues.row]
    exact (hrow.readied _ _).counted _
  | restarted hkind habout => exact hrow.restarted _
  | overridden hkind hvalue habout => exact hrow.overridden hvalue _
  | reconfigured hchanged => exact Sequence.valid_of_changed hchanged

/-- No calls that are allowed break a rule. -/
theorem Call.valid_changes {clock : Moment} {row : Sequence} {calls : List Call}
    (hcalls : calls.all Call.isAllowed = true) (hrow : row.Valid) :
    (Call.changes clock row calls).Valid := by
  induction calls generalizing row with
  | nil => exact hrow
  | cons call rest ih =>
    rw [List.all_cons, Bool.and_eq_true] at hcalls
    refine ih hcalls.2 ?_
    cases call with
    | increment now => exact hrow.counted _
    | reset now => exact hrow.restarted _
    | override value now => exact hrow.overridden (by simpa [isAllowed] using hcalls.1) _
    | log entry => exact hrow

/-! ## Stores -/

/-- The operation puts in no row that breaks a rule of its fields. -/
def Operation.IsRegular : Operation → Prop
  | insert row => row.Valid
  | _ => True

namespace Store

/-- A store that is reached by one client that puts in valid rows only. -/
inductive Regular : Store → Prop where
  | new (timeout : Int) (clock : Moment) : Regular (.new .memory timeout clock)
  | wait {s : Store} (clock : Moment) (before : Regular s) : Regular { s with clock }
  | run {s : Store} (i : Issuer) {op : Operation} (regular : op.IsRegular)
    (before : Regular s) : Regular (op.run i s).2

theorem Regular.reachable {s : Store} (h : s.Regular) : s.Reachable := by
  induction h with
  | new timeout clock => exact .new timeout clock
  | wait clock before ih => exact .wait clock ih
  | run i regular before ih => exact .run i _ ih

/-- All rows keep the rules of their fields. -/
def RowsValid (s : Store) : Prop :=
  ∀ {key row}, s.row? key = some row → row.Valid

theorem RowsValid.changed {s s' : Store} {key : Key} {row : Option Sequence}
    {added : List LogEntry} {made : Nat} (hs : s.RowsValid) (h : s.Changed key row added made s')
    (hrow : ∀ r ∈ row, r.Valid) : s'.RowsValid := by
  intro k r hr
  rw [h.row?] at hr
  split at hr
  · exact hrow r hr
  · exact hs hr

theorem RowsValid.effect {s s' : Store} (hs : s.RowsValid) (hsound : s.Sound) {i : Issuer}
    {op : Operation} (hop : op.IsRegular) {answer : Answer} (h : op.Effect i s answer s') :
    s'.RowsValid := by
  cases h with
  | create hchecked hdrafted hfree hchanged =>
    refine hs.changed hchanged ?_
    rintro r ⟨⟩
    exact (Issuer.Draft.valid_of_sequence hdrafted).stored s
  | insert hfree hchanged =>
    refine hs.changed hchanged ?_
    rintro r ⟨⟩
    exact Sequence.Valid.stored hop s
  | edit hprepared hread hworked hchanged =>
    refine hs.changed hchanged ?_
    rintro r ⟨⟩
    exact Edit.valid_of_work hprepared hworked (hs hread)
  | delete hchanged =>
    refine hs.changed hchanged ?_
    rintro r ⟨⟩
  | append hchanged => exact hs.changed (hchanged ("", "")) fun r hr => hs (Option.mem_def.mp hr)
  | block hallowed hread hchanged =>
    refine hs.changed (hchanged (hsound.rows.keyed hread)) ?_
    rintro r ⟨⟩
    exact Call.valid_changes hallowed (hs hread)

/-- All rows of a store that was reached with valid rows are valid. -/
theorem Regular.valid {s : Store} (h : s.Regular) : s.RowsValid := by
  induction h with
  | new timeout clock =>
    intro key row hrow
    rw [row?_new] at hrow
    cases hrow
  | wait clock before ih => exact ih
  | @run s i op regular before ih =>
    rcases op.run_cases i s with ⟨_, _, hsame⟩ | ⟨answer, _, heffect⟩
    · intro key row hrow
      rw [hsame.row?] at hrow
      exact ih hrow
    · exact ih.effect before.reachable.sound regular heffect

end Store

end SerialNumbers
