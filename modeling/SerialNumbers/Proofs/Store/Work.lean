/-
  SerialNumbers.Proofs.Store.Work

  What each edit makes of its row.  A counter moves in three ways: it goes up
  by a step, starts again, or is set; each is one change more.  For every kind
  of work there is one lemma that says all that work which succeeds does: the
  row, the entries and the answer it comes to, and `Edit.Does` puts them
  together with their times; `Edit.Makes` is what is left of it when the times
  are no matter.  What an edit does to the counter can be read off its entries
  unless it counts up without issuing (`Edit.Makes.logged`).
-/
import SerialNumbers.Proofs.Pattern.Template
import SerialNumbers.Proofs.Record
import SerialNumbers.Proofs.Store.Edit

namespace SerialNumbers

open Time

/-! ## Changes of a row -/

namespace Sequence

/-- The row one step further. -/
def counted (row : Sequence) (now : Moment) : Sequence :=
  { row with current := row.nextValue, version := row.version + 1, updatedAt := now }

/-- The row started again. -/
def restarted (row : Sequence) (now : Moment) : Sequence :=
  { row with current := 0, lastResetAt := some now, version := row.version + 1, updatedAt := now }

/-- The row with its counter set. -/
def overridden (row : Sequence) (value : Int) (now : Moment) : Sequence :=
  { row with current := value, version := row.version + 1, updatedAt := now }

/-- The row from which the next number is counted, when there is a reason to start again. -/
def readied (row : Sequence) (reason : Option String) (now : Moment) : Sequence :=
  if reason.isSome then row.restarted now else row

/-- The same sequence: what never changes while a row is in the store. -/
structure SameIdentity (row row' : Sequence) : Prop where
  id : row'.id = row.id
  tenant : row'.tenant = row.tenant
  name : row'.name = row.name
  createdAt : row'.createdAt = row.createdAt

theorem SameIdentity.key {row row' : Sequence} (h : SameIdentity row row') :
    row'.key = row.key := by
  unfold Sequence.key
  rw [h.tenant, h.name]

theorem SameIdentity.trans {a b c : Sequence} (h : SameIdentity a b) (h' : SameIdentity b c) :
    SameIdentity a c :=
  ⟨h'.id.trans h.id, h'.tenant.trans h.tenant, h'.name.trans h.name,
    h'.createdAt.trans h.createdAt⟩

theorem sameIdentity_refl (row : Sequence) : row.SameIdentity row := ⟨rfl, rfl, rfl, rfl⟩

theorem sameIdentity_counted (row : Sequence) (now : Moment) :
    row.SameIdentity (row.counted now) := ⟨rfl, rfl, rfl, rfl⟩

theorem sameIdentity_restarted (row : Sequence) (now : Moment) :
    row.SameIdentity (row.restarted now) := ⟨rfl, rfl, rfl, rfl⟩

theorem sameIdentity_overridden (row : Sequence) (value : Int) (now : Moment) :
    row.SameIdentity (row.overridden value now) := ⟨rfl, rfl, rfl, rfl⟩

theorem sameIdentity_readied (row : Sequence) (reason : Option String) (now : Moment) :
    row.SameIdentity (row.readied reason now) := by
  cases reason with
  | none => exact row.sameIdentity_refl
  | some text => exact row.sameIdentity_restarted now

theorem Reconfigured.sameIdentity {row row' : Sequence} (h : row.Reconfigured row') :
    row.SameIdentity row' := ⟨h.id, h.tenant, h.name, h.createdAt⟩

end Sequence

/-! ## What each kind of work comes to -/

/-- An entry that was kept in a transaction tells the same as before. -/
theorem LogEntry.About.kept {e : LogEntry} {row row' : Sequence} {action : Action}
    {number : String} {counter : Int} {now : Moment} (h : e.About row action number counter now)
    (hid : row'.id = row.id) :
    { e with sequenceId := row'.id.getD e.sequenceId }.About row action number counter now := by
  refine ⟨h.id, ?_, h.number, h.counter, h.action, h.createdAt⟩
  show row'.id.getD e.sequenceId = row.id.getD 0
  rw [h.sequenceId, hid]
  cases row.id <;> rfl

/-- An entry about a row is about every row with its id. -/
theorem LogEntry.About.of_id {e : LogEntry} {row row' : Sequence} {action : Action}
    {number : String} {counter : Int} {now : Moment} (h : e.About row action number counter now)
    (hid : row.id = row'.id) : e.About row' action number counter now :=
  ⟨h.id, h.sequenceId.trans (by rw [hid]), h.number, h.counter, h.action, h.createdAt⟩

theorem LogEntry.About.action_beq {e : LogEntry} {row : Sequence} {action : Action}
    {number : String} {counter : Int} {now : Moment} (h : e.About row action number counter now)
    (other : Action) : (e.action == other) = (action == other) := by
  rw [h.action]

namespace Inside

variable {clock : Moment} {log : List LogEntry} {row : Sequence} {done : Edited}

theorem increment_eq_ok {now : Option Moment}
    (h : (increment now).work Edit.rowAnswer clock log row = .ok done) :
    done = ⟨row.counted (now.getD clock), [], .row (row.counted (now.getD clock))⟩ :=
  (Except.ok.inj h).symm

theorem reset_eq_ok {reason causer : Value} {stamp : Moment}
    (h : (reset reason causer stamp).work Edit.rowAnswer clock log row = .ok done) :
    ∃ e : LogEntry, e.About row .reset "" 0 stamp ∧
      done = ⟨row.restarted stamp, [e], .row (row.restarted stamp)⟩ := by
  obtain ⟨⟨_, tx⟩, hinside, h⟩ := Except.bind_eq_ok.mp h
  obtain ⟨e, he, hinside⟩ := Except.bind_eq_ok.mp hinside
  cases hinside
  cases h
  have habout : e.About row .reset "" 0 stamp := (LogEntry.about_eq_ok he).of_id rfl
  exact ⟨_, habout.kept rfl, rfl⟩

theorem override_eq_ok {value : Int} {reason causer : Value} {stamp : Moment}
    {look : List LogEntry → Sequence → Except Failure Unit}
    (h : (override value reason causer stamp look).work Edit.rowAnswer clock log row = .ok done) :
    0 ≤ value ∧ look log (row.overridden value stamp) = .ok () ∧
      ∃ e : LogEntry, e.About row .overridden "" value stamp ∧
        done = ⟨row.overridden value stamp, [e], .row (row.overridden value stamp)⟩ := by
  obtain ⟨⟨_, tx⟩, hinside, h⟩ := Except.bind_eq_ok.mp h
  obtain ⟨tx₁, hover, hinside⟩ := Except.bind_eq_ok.mp hinside
  unfold Transaction.override at hover
  split at hover
  · cases hover
  · rename_i hvalue
    cases hover
    obtain ⟨_, hlook, hinside⟩ := Except.bind_eq_ok.mp hinside
    obtain ⟨e, he, hinside⟩ := Except.bind_eq_ok.mp hinside
    cases hinside
    cases h
    have habout : e.About row .overridden "" value stamp := (LogEntry.about_eq_ok he).of_id rfl
    exact ⟨by omega, hlook, _, habout.kept rfl, rfl⟩

/-- What work comes to that issues a number: the row is started again if there is a reason
    to, and counted up; the number is made from what it has counted to; and both are logged. -/
structure Issues (i : Issuer) (c : Context) (stamp : Moment) (opened : Sequence)
    (reason : Option String) (number : String) (done : Edited) : Prop where
  due : opened.resetReason? i.zone stamp = .ok reason
  row : done.row = (opened.readied reason stamp).counted stamp
  answer : done.answer = .number (Issuer.issued number reason done.row stamp)
  made : ∃ t, i.checkedTemplate opened.pattern = .ok t ∧
    i.render t done.row done.row.current c stamp = .ok number
  logged : ∃ e : LogEntry, e.About opened .generated number done.row.current stamp ∧
    match reason with
    | none => done.entries = [e]
    | some _ => ∃ e₀ : LogEntry, e₀.About opened .reset "" 0 stamp ∧ done.entries = [e₀, e]

theorem resetIfDue_eq_ok {i : Issuer} {tx tx' : Transaction} {causer : Value} {now : Moment}
    {reason : Option String} (h : i.resetIfDue tx causer now = .ok (reason, tx')) :
    tx.current.resetReason? i.zone now = .ok reason ∧
      tx'.current = tx.current.readied reason now ∧
      match reason with
      | none => tx'.pending = tx.pending
      | some _ => ∃ e : LogEntry, e.About tx.current .reset "" 0 now ∧
          tx'.pending = tx.pending ++ [e] := by
  obtain ⟨due, hdue, h⟩ := Except.bind_eq_ok.mp h
  cases due with
  | none =>
    cases h
    exact ⟨hdue, rfl, rfl⟩
  | some text =>
    obtain ⟨e, he, h⟩ := Except.bind_eq_ok.mp h
    cases h
    have habout : e.About tx.current .reset "" 0 now := (LogEntry.about_eq_ok he).of_id rfl
    exact ⟨hdue, rfl, _, habout.kept rfl, rfl⟩

theorem issueIn_eq_ok {i : Issuer} {t : Template} {tx tx' : Transaction} {c : Context}
    {causer : Value} {now : Moment} {number : String}
    (h : i.issueIn t tx c causer now = .ok (number, tx')) :
    i.render t (tx.current.counted now) (tx.current.counted now).current c now = .ok number ∧
      tx'.current = tx.current.counted now ∧
      ∃ e : LogEntry, e.About tx.current .generated number (tx.current.counted now).current now ∧
        tx'.pending = tx.pending ++ [e] := by
  obtain ⟨text, htext, h⟩ := Except.bind_eq_ok.mp h
  obtain ⟨_, -, h⟩ := Except.bind_eq_ok.mp h
  obtain ⟨e, he, h⟩ := Except.bind_eq_ok.mp h
  cases h
  have habout : e.About tx.current .generated number (tx.current.counted now).current now :=
    (LogEntry.about_eq_ok he).of_id rfl
  exact ⟨htext, rfl, _, habout.kept rfl, rfl⟩

theorem issue_eq_ok {i : Issuer} {t : Template} {pattern : String} {c : Context} {causer : Value}
    {stamp : Moment} (ht : i.checkedTemplate pattern = .ok t)
    (h : (issue i t c causer stamp).work (fun (number, reason) row =>
      .number (Issuer.issued number reason row stamp)) clock log row = .ok done) :
    ∃ number reason, Issues i c stamp row reason number done := by
  obtain ⟨⟨⟨number, reason⟩, tx⟩, hinside, h⟩ := Except.bind_eq_ok.mp h
  cases h
  have hstep := (Issuer.issueStep_of_checked ht (.start row) c causer stamp).symm.trans hinside
  obtain ⟨t', htemplate, hstep⟩ := Except.bind_eq_ok.mp hstep
  obtain ⟨⟨reason', tx₁⟩, hreset, hstep⟩ := Except.bind_eq_ok.mp hstep
  obtain ⟨⟨number', tx'⟩, hissue, hstep⟩ := Except.bind_eq_ok.mp hstep
  cases hstep
  obtain ⟨hdue, hcur₁, hpend₁⟩ := resetIfDue_eq_ok hreset
  obtain ⟨hmade, hcur₂, e, he, hpend₂⟩ := issueIn_eq_ok hissue
  have hcur : tx.current = (row.readied reason stamp).counted stamp := by
    rw [hcur₂, hcur₁]
    rfl
  have hsame : tx₁.current.id = row.id := by
    rw [hcur₁]
    exact (row.sameIdentity_readied reason stamp).id
  -- A reset comes before the number and is logged before it.
  rw [← hcur₂] at hmade he
  refine ⟨number, reason, hdue, hcur, rfl, ⟨t', htemplate, hmade⟩, e, he.of_id hsame, ?_⟩
  cases reason with
  | none =>
    show tx.pending = [e]
    rw [hpend₂, hpend₁]
    rfl
  | some text =>
    obtain ⟨e₀, he₀, hpend₁⟩ := hpend₁
    refine ⟨e₀, he₀, ?_⟩
    show tx.pending = [e₀, e]
    rw [hpend₂, hpend₁]
    rfl

end Inside

theorem Edit.updateWork_eq_ok {key : Key} {expected : Option Int} {changes : List (String × Value)}
    {clock : Moment} {log : List LogEntry} {row : Sequence} {done : Edited}
    (h : Edit.updateWork key expected changes clock log row = .ok done) :
    (∀ version ∈ expected, row.version = version) ∧ row.changed changes clock = .ok done.row ∧
      done = ⟨done.row, [], .row done.row⟩ := by
  unfold Edit.updateWork at h
  cases expected with
  | none =>
    obtain ⟨updated, hchanged, h⟩ := Except.bind_eq_ok.mp h
    cases h
    exact ⟨nofun, hchanged, rfl⟩
  | some version =>
    by_cases hv : row.version != version
    · simp only [hv, if_true] at h
      cases h
    · simp only [hv, Bool.false_eq_true, if_false] at h
      obtain ⟨updated, hchanged, h⟩ := Except.bind_eq_ok.mp h
      cases h
      refine ⟨?_, hchanged, rfl⟩
      rintro v ⟨⟩
      simpa using hv

/-! ## Kinds of edits -/

/-- What an edit is for. -/
inductive Edit.Kind where
  | count
  | issue
  | restart
  | override (value : Int)
  | update
deriving DecidableEq

namespace Edit

/-- Both ways to reset a row are of one kind, and so are both ways to set its counter. -/
def kind : Edit → Kind
  | increment .. => .count
  | generate .. => .issue
  | reset .. | resetRow .. => .restart
  | override _ value _ _ _ | overrideRow _ value _ _ _ => .override value
  | update .. => .update

/-- The time of an edit: the one that it is given, or else that of the clock. -/
def time (clock : Moment) : Edit → Moment
  | increment _ now | generate _ _ _ now | reset _ _ _ now | override _ _ _ _ now
  | resetRow _ _ _ now | overrideRow _ _ _ _ now => now.getD clock
  | update .. => clock

end Edit

/-! ## What every edit comes to -/

/-- The number and the counter that an answer carries, if a number was issued. -/
def Answer.issued? : Answer → Option (String × Int)
  | .number issued => some (issued.number, issued.counter)
  | _ => none

/-- The number and the counter of an entry. -/
def LogEntry.issued (e : LogEntry) : String × Int := (e.number, e.counter)

/-- What was done to a row can be read off the entries: they are about the row, the last of
    them has its counter and the last reset its time, each of them and each update is one
    change, and the numbers in them are those that were answered. -/
structure Edited.Logged (opened : Sequence) (updates : Int) (done : Edited) : Prop where
  about : ∀ e ∈ done.entries, e.sequenceId = opened.id.getD 0
  current : done.row.current = done.entries.getLast?.elim opened.current (·.counter)
  lastResetAt : done.row.lastResetAt =
    (done.entries.filter (·.action == .reset)).getLast?.elim opened.lastResetAt (some ·.createdAt)
  version : done.row.version = opened.version + done.entries.length + updates
  issued : (done.entries.filter (·.action == .generated)).map (·.issued) =
    done.answer.issued?.toList

theorem Edited.Logged.of_one {opened row : Sequence} {e : LogEntry} {answer : Answer}
    {action : Action} {number : String} {now : Moment}
    (he : e.About opened action number row.current now) (hversion : row.version = opened.version + 1)
    (hlast : row.lastResetAt = if action == .reset then some now else opened.lastResetAt)
    (hanswer : answer.issued? = if action == .generated then some (number, row.current) else none) :
    Edited.Logged opened 0 ⟨row, [e], answer⟩ := by
  have haction := he.action
  refine ⟨?_, he.counter.symm, ?_, ?_, ?_⟩
  · intro e' he'
    rw [List.mem_singleton.mp he']
    exact he.sequenceId
  · show row.lastResetAt = _
    rw [hlast, ← he.createdAt, ← haction]
    cases h : e.action == Action.reset <;> simp [h]
  · show row.version = opened.version + (1 : Nat) + 0
    rw [hversion]
    omega
  · show _ = answer.issued?.toList
    rw [hanswer, ← haction]
    cases h : e.action == Action.generated <;> simp [h, LogEntry.issued, he.number, he.counter]

/-- A number that is issued is the last entry, after the reset if there was one. -/
theorem Inside.Issues.isLogged {i : Issuer} {c : Context} {stamp : Moment} {opened : Sequence}
    {reason : Option String} {number : String} {done : Edited}
    (h : Inside.Issues i c stamp opened reason number done) : done.Logged opened 0 := by
  obtain ⟨e, he, hentries⟩ := h.logged
  have hissued : done.answer.issued?.toList = [e.issued] := by
    rw [h.answer]
    show [(number, done.row.current)] = [(e.number, e.counter)]
    rw [he.number, he.counter]
  have hgenerated : (e.action == Action.generated) = true := he.action_beq .generated
  have hreset : (e.action == Action.reset) = false := he.action_beq .reset
  -- One entry without a reset, and two with one.
  cases reason with
  | none =>
    have hentries : done.entries = [e] := hentries
    refine ⟨?_, ?_, ?_, ?_, ?_⟩
    · rw [hentries]
      intro e' he'
      rw [List.mem_singleton.mp he']
      exact he.sequenceId
    · rw [hentries]
      exact he.counter.symm
    · simp only [hentries, List.filter_cons, hreset, h.row]
      rfl
    · rw [hentries, h.row]
      show opened.version + 1 = opened.version + (1 : Nat) + 0
      omega
    · rw [hentries, hissued, List.filter_cons, if_pos hgenerated]
      rfl
  | some text =>
    obtain ⟨e₀, he₀, hentries⟩ := hentries
    have hgenerated₀ : (e₀.action == Action.generated) = false := he₀.action_beq .generated
    have hreset₀ : (e₀.action == Action.reset) = true := he₀.action_beq .reset
    refine ⟨?_, ?_, ?_, ?_, ?_⟩
    · rw [hentries]
      intro e' he'
      rcases List.mem_cons.mp he' with rfl | he'
      · exact he₀.sequenceId
      · rw [List.mem_singleton.mp he']
        exact he.sequenceId
    · rw [hentries]
      exact he.counter.symm
    · simp only [hentries, List.filter_cons, hreset, hreset₀, h.row]
      show some stamp = some e₀.createdAt
      rw [he₀.createdAt]
    · rw [hentries, h.row]
      show opened.version + 1 + 1 = opened.version + (2 : Nat) + 0
      omega
    · rw [hentries, hissued, List.filter_cons, List.filter_cons, if_pos hgenerated, hgenerated₀]
      rfl

namespace Edit

variable {i : Issuer} {begun clock : Moment} {log : List LogEntry} {row : Sequence} {done : Edited}
  {e : Edit} {work : Work}

/-- The edit writes to the log whatever it does to the counter. -/
def isLogged : Edit → Bool
  | increment .. => false
  | _ => true

/-- The edit issues a number. -/
def isIssue : Edit → Bool
  | generate .. => true
  | _ => false

/-- How many changes the edit makes that it does not log. -/
def updates : Edit → Nat
  | update .. => 1
  | _ => 0

/-- All that an edit can make of a row.  Both ways to reset and both ways to override a row
    make the same of it; they issue nothing, and log all that they change. -/
inductive Makes (i : Issuer) (row : Sequence) : Edit → Edited → Prop where
  | counted {key : Key} {now : Option Moment} (stamp : Moment) :
    Makes i row (.increment key now) ⟨row.counted stamp, [], .row (row.counted stamp)⟩
  | issued {row₀ : Sequence} {c : Context} {causer : Value} {now : Option Moment}
    {stamp : Moment} {reason : Option String} {number : String} {done : Edited}
    (issues : Inside.Issues i c stamp row reason number done) :
    Makes i row (.generate row₀ c causer now) done
  | restarted {e : Edit} {entry : LogEntry} {stamp : Moment}
    (plain : e.isIssue = false ∧ e.updates = 0) (about : entry.About row .reset "" 0 stamp) :
    Makes i row e ⟨row.restarted stamp, [entry], .row (row.restarted stamp)⟩
  | overridden {e : Edit} {entry : LogEntry} {value : Int} {stamp : Moment}
    (plain : e.isIssue = false ∧ e.updates = 0)
    (about : entry.About row .overridden "" value stamp) :
    Makes i row e ⟨row.overridden value stamp, [entry], .row (row.overridden value stamp)⟩
  | reconfigured {key : Key} {expected : Option Int} {changes : List (String × Value)}
    {updated : Sequence} (kept : row.Reconfigured updated) :
    Makes i row (.update key expected changes) ⟨updated, [], .row updated⟩

/-- All that work of an edit comes to which was prepared at one time and is done at another: what
    is put in the place of the row, at which time, and what is known of what it was given. -/
inductive Does (i : Issuer) (begun clock : Moment) (row : Sequence) : Edit → Edited → Prop where
  | counted {key : Key} {now : Option Moment} :
    Does i begun clock row (.increment key now)
      ⟨row.counted (now.getD clock), [], .row (row.counted (now.getD clock))⟩
  | issued {row₀ : Sequence} {c : Context} {causer : Value} {now : Option Moment}
    {reason : Option String} {number : String} {done : Edited}
    (issues : Inside.Issues i c (now.getD begun) row reason number done) :
    Does i begun clock row (.generate row₀ c causer now) done
  | restarted {e : Edit} {entry : LogEntry} (kind : e.kind = .restart)
    (about : entry.About row .reset "" 0 (e.time begun)) :
    Does i begun clock row e
      ⟨row.restarted (e.time begun), [entry], .row (row.restarted (e.time begun))⟩
  | overridden {e : Edit} {entry : LogEntry} {value : Int} (kind : e.kind = .override value)
    (nonneg : 0 ≤ value) (about : entry.About row .overridden "" value (e.time begun)) :
    Does i begun clock row e
      ⟨row.overridden value (e.time begun), [entry], .row (row.overridden value (e.time begun))⟩
  | reconfigured {key : Key} {expected : Option Int} {changes : List (String × Value)}
    {updated : Sequence} (changed : row.changed changes clock = .ok updated) :
    Does i begun clock row (.update key expected changes) ⟨updated, [], .row updated⟩

/-- What work comes to that an edit was prepared for. -/
theorem does (hprepare : e.prepare i begun = .ok work) (hwork : work clock log row = .ok done) :
    e.Does i begun clock row done := by
  cases e with
  | increment key now =>
    rw [← Except.ok.inj hprepare] at hwork
    rw [Inside.increment_eq_ok hwork]
    exact .counted
  | generate row₀ c causer now =>
    obtain ⟨t, ht, rfl⟩ := prepare_generate_eq_ok hprepare
    obtain ⟨number, reason, hissues⟩ := Inside.issue_eq_ok ht hwork
    exact .issued hissues
  | reset row₀ reason causer now =>
    rw [← Except.ok.inj hprepare] at hwork
    obtain ⟨entry, habout, rfl⟩ := Inside.reset_eq_ok hwork
    exact .restarted rfl habout
  | override row₀ value reason causer now =>
    rw [← Except.ok.inj hprepare] at hwork
    obtain ⟨hvalue, -, entry, habout, rfl⟩ := Inside.override_eq_ok hwork
    exact .overridden rfl hvalue habout
  | resetRow key reason causer now =>
    rw [← Except.ok.inj hprepare] at hwork
    obtain ⟨entry, habout, rfl⟩ := Inside.reset_eq_ok hwork
    exact .restarted rfl habout
  | overrideRow key value reason causer now =>
    rw [← Except.ok.inj hprepare] at hwork
    obtain ⟨hvalue, -, entry, habout, rfl⟩ := Inside.override_eq_ok hwork
    exact .overridden rfl hvalue habout
  | update key expected changes =>
    rw [← Except.ok.inj hprepare] at hwork
    obtain ⟨-, hchanged, hdone⟩ := updateWork_eq_ok hwork
    rw [hdone]
    exact .reconfigured hchanged

theorem plain_of_kind (h : e.kind = .restart ∨ ∃ value, e.kind = .override value) :
    e.isIssue = false ∧ e.updates = 0 := by
  rcases h with h | ⟨value, h⟩
  · cases e with
    | reset row₀ reason causer now => exact ⟨rfl, rfl⟩
    | resetRow key reason causer now => exact ⟨rfl, rfl⟩
    | _ => cases h
  · cases e with
    | override row₀ value reason causer now => exact ⟨rfl, rfl⟩
    | overrideRow key value reason causer now => exact ⟨rfl, rfl⟩
    | _ => cases h

/-- Work that an edit was prepared for makes what the edit can make. -/
theorem makes (hprepare : e.prepare i begun = .ok work) (hwork : work clock log row = .ok done) :
    e.Makes i row done := by
  cases does hprepare hwork with
  | counted => exact .counted _
  | issued hissues => exact .issued hissues
  | restarted hkind habout => exact .restarted (plain_of_kind (.inl hkind)) habout
  | overridden hkind hvalue habout => exact .overridden (plain_of_kind (.inr ⟨_, hkind⟩)) habout
  | reconfigured hchanged => exact .reconfigured (Sequence.changed_eq_ok hchanged)

namespace Makes

/-- An edit leaves the row the same sequence. -/
theorem sameIdentity (h : e.Makes i row done) : row.SameIdentity done.row := by
  cases h with
  | counted stamp => exact row.sameIdentity_counted stamp
  | @issued _ _ _ _ stamp reason _ _ hissues =>
    rw [hissues.row]
    exact (row.sameIdentity_readied reason stamp).trans (Sequence.sameIdentity_counted _ stamp)
  | restarted plain about => exact row.sameIdentity_restarted _
  | overridden plain about => exact row.sameIdentity_overridden _ _
  | reconfigured kept => exact kept.sameIdentity

/-- An edit leaves the row at a later version. -/
theorem later (h : e.Makes i row done) : row.version < done.row.version := by
  have hsucc (n : Int) : n < n + 1 := Int.lt_succ n
  cases h with
  | counted stamp => exact hsucc row.version
  | @issued _ _ _ _ stamp reason _ _ hissues =>
    rw [hissues.row]
    cases reason with
    | none => exact hsucc row.version
    | some text => exact Int.lt_trans (hsucc row.version) (hsucc (row.version + 1))
  | restarted plain about => exact hsucc row.version
  | overridden plain about => exact hsucc row.version
  | @reconfigured _ _ _ updated kept =>
    show row.version < updated.version
    rw [kept.version]
    exact hsucc row.version

/-- An edit leaves entries about its own sequence only. -/
theorem about (h : e.Makes i row done) : ∀ entry ∈ done.entries,
    entry.sequenceId = row.id.getD 0 := by
  intro entry hentry
  cases h with
  | counted stamp => exact absurd hentry List.not_mem_nil
  | issued hissues => exact hissues.isLogged.about entry hentry
  | restarted plain habout =>
    rw [List.mem_singleton.mp hentry]
    exact habout.sequenceId
  | overridden plain habout =>
    rw [List.mem_singleton.mp hentry]
    exact habout.sequenceId
  | reconfigured kept => exact absurd hentry List.not_mem_nil

/-- An edit that issues a number makes what issuing makes. -/
theorem issues (h : e.Makes i row done) (hissue : e.isIssue = true) :
    ∃ c stamp reason number, Inside.Issues i c stamp row reason number done := by
  cases h with
  | counted stamp => cases hissue
  | @issued _ c _ _ stamp reason number _ hissues => exact ⟨c, stamp, reason, number, hissues⟩
  | restarted plain habout =>
    rw [plain.1] at hissue
    cases hissue
  | overridden plain habout =>
    rw [plain.1] at hissue
    cases hissue
  | reconfigured kept => cases hissue

/-- No other edit than issuing answers a number. -/
theorem issued?_eq_none (h : e.Makes i row done) (hother : e.isIssue = false) :
    done.answer.issued? = none := by
  cases h with
  | issued hissues => cases hother
  | _ => rfl

/-- What a logged edit does can be read off its entries. -/
theorem logged (h : e.Makes i row done) (hlogged : e.isLogged = true) :
    done.Logged row e.updates := by
  cases h with
  | counted stamp => cases hlogged
  | issued hissues => exact hissues.isLogged
  | restarted plain habout =>
    rw [plain.2]
    exact .of_one habout rfl rfl rfl
  | overridden plain habout =>
    rw [plain.2]
    exact .of_one habout rfl rfl rfl
  | @reconfigured _ _ _ updated kept =>
    have hversion : updated.version = row.version + (0 : Nat) + (1 : Nat) := by
      rw [kept.version]
      omega
    exact ⟨fun e he => absurd he List.not_mem_nil, kept.current, kept.lastResetAt, hversion, rfl⟩

end Makes

end Edit

end SerialNumbers
