/-
  SerialNumbers.Proofs.Numbering.Run

  Taking numbers one after another.  A request asks an issuer for the next
  number of a sequence or looks ahead at it, at a time of its own, and may
  fail.  Main statement: over every run of requests, for whichever sequences,
  the numbers of one sequence were issued of one row after another, each of
  them once, and the log has got the entries of these numbers and no others
  about the sequence (`Request.serveAll_chain`).
-/
import SerialNumbers.Proofs.Lookahead
import SerialNumbers.Proofs.Store.Footprint

namespace SerialNumbers

open Time

/-! ## Requests -/

/-- What is asked about the next number of a sequence. -/
inductive Ask where
  | generate (causer : Value)
  | preview
  | outlook

/-- A request: who serves it, what the clock then shows, and what is asked about which
    sequence; it may bring along a time of its own. -/
structure Request where
  issuer : Issuer
  clock : Moment
  ask : Ask
  row : Sequence
  context : Context
  now : Option Moment

/-- A number that was issued: of which sequence, in which zone, at which time, and what the
    log has got with it. -/
structure Served where
  key : Key
  zone : Zone
  time : Moment
  issued : Issued
  entries : List LogEntry

namespace Request

/-- The time of a request: its own, or else that of the clock. -/
def time (r : Request) : Moment :=
  r.now.getD r.clock

/-- Serves a request: a number if one was issued, and the store that is left. -/
def serve (r : Request) (s : Store) : Option Served × Store :=
  let s := { s with clock := r.clock }
  match r.ask with
  | .generate causer =>
    match r.issuer.generate r.row r.context causer r.now s with
    | (.ok issued, s') =>
      (some ⟨r.row.key, r.issuer.zone, r.time, issued, s'.entries.drop s.entries.length⟩, s')
    | (.error _, s') => (none, s')
  | .preview => (none, (r.issuer.preview r.row r.context r.now s).2)
  | .outlook => (none, (r.issuer.outlook r.row r.context r.now s).2)

/-- Serves requests one after another: the numbers that were issued, and the store that is
    left. -/
def serveAll : List Request → Store → List Served × Store
  | [], s => ([], s)
  | r :: rest, s =>
    let (served, s') := r.serve s
    let (more, s'') := serveAll rest s'
    (served.toList ++ more, s'')

/-- The numbers of one sequence that were issued. -/
def numbersOf (key : Key) (requests : List Request) (s : Store) : List Served :=
  (serveAll requests s).1.filter (·.key == key)

end Request

/-! ## Resets that come by themselves -/

namespace LogEntry

/-- The entry of a reset that nobody has asked for. -/
def isAutomaticReset (e : LogEntry) : Bool :=
  e.action == .reset && e.reason.any fun text => "automatic: ".toList.isPrefixOf text.toList

theorem isAutomaticReset_of_generated {e : LogEntry} (h : e.action = .generated) :
    e.isAutomaticReset = false := by
  unfold isAutomaticReset
  rw [h]
  rfl

/-- An entry has the reason that it was told. -/
theorem reason_of_about {s : Sequence} {action : Action} {number : String} {counter : Int}
    {context : List (String × Value)} {reason : String} {causer : Value} {now : Moment}
    {e : LogEntry}
    (h : LogEntry.about s action number counter context (.text reason) causer now = .ok e) :
    e.reason = some reason := by
  -- The reason is the third field from the end.
  obtain ⟨_, _, h₁, -, rfl⟩ := Checked.and_eq_ok.mp (Checked.value_eq_ok.mp h)
  obtain ⟨_, _, h₂, -, rfl⟩ := Checked.and_eq_ok.mp h₁
  obtain ⟨_, _, h₃, hreason, rfl⟩ := Checked.and_eq_ok.mp h₂
  obtain ⟨_, _, h₄, -, rfl⟩ := Checked.and_eq_ok.mp h₃
  obtain ⟨_, _, h₅, -, rfl⟩ := Checked.and_eq_ok.mp h₄
  obtain ⟨_, _, h₆, -, rfl⟩ := Checked.and_eq_ok.mp h₅
  obtain ⟨_, _, h₇, -, rfl⟩ := Checked.and_eq_ok.mp h₆
  obtain ⟨_, _, h₈, -, rfl⟩ := Checked.and_eq_ok.mp h₇
  obtain ⟨_, _, hof, -, rfl⟩ := Checked.and_eq_ok.mp h₈
  cases hof
  simp [Fields.get_eq_ok, Table.get?_ofList, List.lookup_cons] at hreason
  exact (Except.ok.inj hreason).symm

end LogEntry

namespace Issuer

/-- The entry of a reset that was due says that it came by itself. -/
theorem automatic_of_resetIfDue {i : Issuer} {tx tx' : Transaction} {causer : Value} {now : Moment}
    {reason : Option String} (h : i.resetIfDue tx causer now = .ok (reason, tx'))
    (hnone : tx.pending = []) :
    tx'.pending.countP (·.isAutomaticReset) = if reason.isSome then 1 else 0 := by
  obtain ⟨due, -, h⟩ := Except.bind_eq_ok.mp h
  cases due with
  | none =>
    cases h
    rw [hnone]
    rfl
  | some text =>
    obtain ⟨e, he, h⟩ := Except.bind_eq_ok.mp h
    cases h
    have hautomatic (id : Int) : { e with sequenceId := id }.isAutomaticReset = true := by
      show (e.action == .reset && e.reason.any _) = true
      rw [(LogEntry.about_eq_ok he).action, LogEntry.reason_of_about he]
      simp
    show (tx.pending ++ [_]).countP _ = 1
    rw [hnone, List.nil_append, List.countP_singleton, hautomatic]
    rfl

/-- Issuing logs a reset that comes by itself just when there is a reason for it. -/
theorem automatic_of_issueStep {i : Issuer} {t : Template} {row : Sequence} {tx : Transaction}
    {c : Context} {causer : Value} {now : Moment} {number : String} {reason : Option String}
    (h : i.issueStep t (.start row) c causer now = .ok ((number, reason), tx)) :
    tx.pending.countP (·.isAutomaticReset) = if reason.isSome then 1 else 0 := by
  obtain ⟨t', tx₁, -, hreset, hissue⟩ := Inside.issueStep_eq_ok h
  obtain ⟨-, -, e, he, hpending⟩ := Inside.issueIn_eq_ok hissue
  rw [hpending, List.countP_append, List.countP_singleton,
    LogEntry.isAutomaticReset_of_generated he.action, automatic_of_resetIfDue hreset rfl]
  rfl

/-! ## One number -/

/-- Issuing fails and leaves the records, or the next number of the row that is there is issued
    and logged. -/
theorem generate_effect (i : Issuer) (handle : Sequence) (c : Context) (causer : Value)
    (now : Option Moment) (s : Store) :
    (∃ failure, (i.generate handle c causer now s).1 = .error failure ∧
      s.SameRecords (i.generate handle c causer now s).2) ∨
    ∃ row reason number done, s.row? handle.key = some row ∧
      Inside.Issues i c (now.getD s.clock) row reason number done ∧
      done.entries.countP (·.isAutomaticReset) = (if reason.isSome then 1 else 0) ∧
      (i.generate handle c causer now s).1 = .ok (issued number reason done.row (now.getD s.clock)) ∧
      s.Settled row.key done (i.generate handle c causer now s).2 := by
  have hrun : (Edit.generate handle c causer now).run i s =
      (.number <$> i.generate handle c causer now) s := rfl
  rw [StoreM.map_apply] at hrun
  rcases (Edit.generate handle c causer now).run_cases i s with
    ⟨failure, herr, hsame⟩ | ⟨work, row, done, hprepare, hrow, hwork, hanswer, hsettled⟩
  · left
    rw [hrun] at herr hsame
    cases hanswer : (i.generate handle c causer now s).1 with
    | error e =>
      exact ⟨e, rfl, hsame⟩
    | ok issued =>
      rw [hanswer] at herr
      cases herr
  · right
    rw [hrun] at hanswer hsettled
    obtain ⟨t, ht, rfl⟩ := Edit.prepare_generate_eq_ok hprepare
    obtain ⟨number, reason, hissues⟩ := Inside.issue_eq_ok ht hwork
    obtain ⟨⟨⟨number', reason'⟩, tx⟩, hinside, hdone⟩ := Except.bind_eq_ok.mp hwork
    cases hdone
    -- The answer tells whether there was a reason.
    have hflag : reason'.isSome = reason.isSome := by
      have hmetadata := congrArg Issued.metadata (Answer.number.inj hissues.answer)
      simpa [issued] using hmetadata
    have hautomatic := automatic_of_issueStep hinside
    rw [hflag] at hautomatic
    refine ⟨row, reason, number, _, hrow, hissues, hautomatic, ?_, hsettled⟩
    rw [hissues.answer] at hanswer
    cases hissued : (i.generate handle c causer now s).1 with
    | error e =>
      rw [hissued] at hanswer
      cases hanswer
    | ok issued =>
      rw [hissued] at hanswer
      exact congrArg Except.ok (Answer.number.inj (Except.ok.inj hanswer))

/-! ## Looking ahead -/

theorem preview_unchanged (i : Issuer) (row : Sequence) (c : Context) (now : Option Moment)
    {s : Store} (hmemory : s.backing = .memory) : (i.preview row c now s).2 = s := by
  unfold preview currentRow
  simp only [StoreM.bind_apply, Store.timeOr_apply, Store.require_memory hmemory]
  cases s.row? row.key <;> rfl

theorem outlook_unchanged (i : Issuer) (row : Sequence) (c : Context) (now : Option Moment)
    {s : Store} (hmemory : s.backing = .memory) : (i.outlook row c now s).2 = s := by
  unfold outlook currentRow
  simp only [StoreM.bind_apply, Store.timeOr_apply, Store.require_memory hmemory]
  cases s.row? row.key <;> rfl

end Issuer

/-! ## Numbers one after another -/

theorem Inside.Issues.sameIdentity {i : Issuer} {c : Context} {stamp : Moment} {opened : Sequence}
    {reason : Option String} {number : String} {done : Edited}
    (h : Inside.Issues i c stamp opened reason number done) : opened.SameIdentity done.row := by
  have hmakes : (Edit.generate opened c .none none).Makes i opened done := .issued h
  exact hmakes.sameIdentity

namespace Served

/-- The number was issued of a row, with or without a reason to start again, and this is what
    was done to the row. -/
structure Tells (v : Served) (row : Sequence) (reason : Option String) (done : Edited) : Prop where
  issues : ∃ i c number, i.zone = v.zone ∧ Inside.Issues i c v.time row reason number done
  counter : v.issued.counter = done.row.current
  automatic : v.entries.countP (·.isAutomaticReset) = if reason.isSome then 1 else 0

/-- Numbers that were issued of a row one after another. -/
inductive Chain : Sequence → List Served → Prop where
  | nil (row : Sequence) : Chain row []
  | cons {row : Sequence} {v : Served} {reason : Option String} {done : Edited}
    {more : List Served} (tells : v.Tells row reason done) (rest : Chain done.row more) :
    Chain row (v :: more)

end Served

namespace Request

variable {r : Request} {s : Store} {causer : Value}

theorem serve_of_error {failure : Failure} (hask : r.ask = .generate causer)
    (h : (r.issuer.generate r.row r.context causer r.now { s with clock := r.clock }).1 =
      .error failure) :
    r.serve s =
      (none, (r.issuer.generate r.row r.context causer r.now { s with clock := r.clock }).2) := by
  unfold serve
  rw [hask]
  dsimp only
  split
  · rename_i heq
    rw [heq] at h
    cases h
  · rename_i heq
    rw [heq]

theorem serve_of_ok {issued : Issued} (hask : r.ask = .generate causer)
    (h : (r.issuer.generate r.row r.context causer r.now { s with clock := r.clock }).1 =
      .ok issued) :
    let s' := (r.issuer.generate r.row r.context causer r.now { s with clock := r.clock }).2
    r.serve s = (some ⟨r.row.key, r.issuer.zone, r.time, issued,
      s'.entries.drop s.entries.length⟩, s') := by
  unfold serve
  rw [hask]
  dsimp only
  split
  · rename_i heq
    rw [heq] at h ⊢
    cases h
    rfl
  · rename_i heq
    rw [heq] at h
    cases h

theorem serve_of_looking (hask : r.ask = .preview ∨ r.ask = .outlook)
    (hmemory : s.backing = .memory) : r.serve s = (none, { s with clock := r.clock }) := by
  have hmemory : { s with clock := r.clock }.backing = .memory := hmemory
  unfold serve
  rcases hask with hask | hask
  · rw [hask]
    exact congrArg (none, ·) (Issuer.preview_unchanged r.issuer r.row r.context r.now hmemory)
  · rw [hask]
    exact congrArg (none, ·) (Issuer.outlook_unchanged r.issuer r.row r.context r.now hmemory)

theorem reachable_serve (r : Request) {s : Store} (hs : s.Reachable) : (r.serve s).2.Reachable := by
  have hwait : Store.Reachable { s with clock := r.clock } := .wait r.clock hs
  have hlooking (hask : r.ask = .preview ∨ r.ask = .outlook) : (r.serve s).2.Reachable := by
    rw [serve_of_looking hask hs.sound.memory]
    exact hwait
  cases hask : r.ask with
  | preview => exact hlooking (.inl hask)
  | outlook => exact hlooking (.inr hask)
  | generate causer =>
    have hdone := hwait.run r.issuer (.edit (.generate r.row r.context causer r.now))
    have hrun : (Operation.run r.issuer (.edit (.generate r.row r.context causer r.now))
        { s with clock := r.clock }).2 =
          (r.issuer.generate r.row r.context causer r.now { s with clock := r.clock }).2 := by
      show ((Answer.number <$> r.issuer.generate r.row r.context causer r.now) _).2 = _
      rw [StoreM.map_apply]
    rw [hrun] at hdone
    cases hanswer : (r.issuer.generate r.row r.context causer r.now
        { s with clock := r.clock }).1 with
    | error failure =>
      rw [serve_of_error hask hanswer]
      exact hdone
    | ok issued =>
      rw [serve_of_ok hask hanswer]
      exact hdone

/-- A request leaves a sequence and its entries alone, or it issues the next number of the row
    and logs it. -/
theorem serve_cases (r : Request) {s : Store} (hs : s.Reachable) {key : Key} {row : Sequence}
    {id : Int} (hrow : s.row? key = some row) (hid : row.id = some id) :
    ((r.serve s).1.toList.filter (·.key == key) = [] ∧ (r.serve s).2.row? key = some row ∧
      (r.serve s).2.entriesOf id = s.entriesOf id) ∨
    ∃ v reason done, (r.serve s).1 = some v ∧ v.key = key ∧ v.zone = r.issuer.zone ∧
      v.Tells row reason done ∧ (r.serve s).2.row? key = some done.row ∧ done.row.id = some id ∧
      (r.serve s).2.entriesOf id = s.entriesOf id ++ v.entries := by
  have hsound := hs.sound
  have hlooking (hask : r.ask = .preview ∨ r.ask = .outlook) :
      (r.serve s).1.toList.filter (·.key == key) = [] ∧ (r.serve s).2.row? key = some row ∧
        (r.serve s).2.entriesOf id = s.entriesOf id := by
    rw [serve_of_looking hask hsound.memory]
    exact ⟨rfl, hrow, rfl⟩
  cases hask : r.ask with
  | preview => exact .inl (hlooking (.inl hask))
  | outlook => exact .inl (hlooking (.inr hask))
  | generate causer =>
    rcases r.issuer.generate_effect r.row r.context causer r.now { s with clock := r.clock } with
      ⟨failure, herr, hsame⟩ | ⟨old, reason, number, done, hold, hissues, hautomatic, hans, hsettled⟩
    · rw [serve_of_error hask herr]
      refine .inl ⟨rfl, (hsame.row? key).trans hrow, ?_⟩
      unfold Store.entriesOf
      rw [hsame.entries]
    · have hold : s.row? r.row.key = some old := hold
      have hkey := hsound.rows.keyed hold
      obtain ⟨n, hn, -⟩ := hsound.rows.identified hold
      have habout : ∀ e ∈ done.entries, e.sequenceId = n := by
        intro e he
        rw [hissues.isLogged.about e he, hn]
        rfl
      have hentries : _ = s.entriesOf id ++ _ := hsettled.entriesOf habout id
      have hrows := hsettled.row? key
      rw [serve_of_ok hask hans]
      by_cases hk : key = r.row.key
      · -- A number of this sequence.
        subst hk
        rw [hold] at hrow
        cases hrow
        have hsame : n = id := Option.some.inj (hn.symm.trans hid)
        rw [if_pos (beq_iff_eq.mpr hkey.symm)] at hrows
        rw [if_pos hsame] at hentries
        have hadded : (r.issuer.generate r.row r.context causer r.now
            { s with clock := r.clock }).2.entries.drop s.entries.length =
              Store.numbered s.nextEntryId done.entries := by
          rw [hsettled.entries]
          exact List.drop_left
        dsimp only
        rw [hadded]
        refine .inr ⟨_, reason, done, rfl, rfl, rfl, ⟨⟨_, _, number, rfl, hissues⟩, rfl, ?_⟩,
          hrows, ?_, hentries⟩
        · rw [Store.countP_numbered _ fun _ _ => rfl]
          exact hautomatic
        · rw [hissues.sameIdentity.id, hid]
      · -- A number of another sequence, which has another id.
        have hother : n ≠ id := by
          intro hn'
          exact hk (hsound.rows.distinct hrow hold (by rw [hid, hn, hn']))
        rw [if_neg (by rw [hkey]; simpa using hk)] at hrows
        rw [if_neg hother, List.append_nil] at hentries
        refine .inl ⟨?_, hrows.trans hrow, hentries⟩
        rw [Option.toList_some, List.filter_eq_nil_iff]
        intro v hv
        rw [List.mem_singleton.mp hv]
        simpa using Ne.symm hk

/-- The numbers of a sequence over a run were issued of one row after another, and are all that
    was logged of it. -/
theorem serveAll_chain (requests : List Request) {s : Store} (hs : s.Reachable) {key : Key}
    {row : Sequence} {id : Int} (hrow : s.row? key = some row) (hid : row.id = some id) :
    Served.Chain row (numbersOf key requests s) ∧
      (∀ v ∈ numbersOf key requests s, ∃ r ∈ requests, v.zone = r.issuer.zone) ∧
      (serveAll requests s).2.entriesOf id =
        s.entriesOf id ++ (numbersOf key requests s).flatMap (·.entries) := by
  induction requests generalizing s row with
  | nil => exact ⟨.nil row, fun v hv => absurd hv List.not_mem_nil, (List.append_nil _).symm⟩
  | cons r rest ih =>
    have hreachable := r.reachable_serve hs
    have hsplit : numbersOf key (r :: rest) s =
        (r.serve s).1.toList.filter (·.key == key) ++ numbersOf key rest (r.serve s).2 :=
      List.filter_append ..
    rcases r.serve_cases hs hrow hid with
      ⟨hnone, hrow', hentries⟩ |
        ⟨v, reason, done, hserved, hkey, hzone, htells, hrow', hid', hentries⟩
    · obtain ⟨hchain, hzones, hlogged⟩ := ih hreachable hrow' hid
      rw [hnone, List.nil_append] at hsplit
      rw [hsplit]
      refine ⟨hchain, ?_, ?_⟩
      · intro v hv
        obtain ⟨r', hr', hv'⟩ := hzones v hv
        exact ⟨r', List.mem_cons_of_mem r hr', hv'⟩
      · rw [← hentries]
        exact hlogged
    · obtain ⟨hchain, hzones, hlogged⟩ := ih hreachable hrow' hid'
      have hfirst : [v].filter (·.key == key) = [v] :=
        List.filter_eq_self.mpr fun w hw => by
          rw [List.mem_singleton.mp hw, hkey]
          exact beq_self_eq_true key
      rw [hserved, Option.toList_some, hfirst, List.singleton_append] at hsplit
      rw [hsplit]
      refine ⟨.cons htells hchain, ?_, ?_⟩
      · intro w hw
        rcases List.mem_cons.mp hw with rfl | hw
        · exact ⟨r, List.mem_cons_self, hzone⟩
        · obtain ⟨r', hr', hw'⟩ := hzones w hw
          exact ⟨r', List.mem_cons_of_mem r hr', hw'⟩
      · rw [List.flatMap_cons, ← List.append_assoc, ← hentries]
        exact hlogged

end Request

/-! ## The start -/

namespace Issuer

/-- A sequence that was made at a moment stands in the store as it was answered, and has counted
    and logged nothing. -/
structure Made (s : Store) (row : Sequence) (stamp : Moment) (s' : Store) : Prop where
  stored : s'.row? row.key = some row
  id : row.id = some s.nextId
  fresh : row.Fresh
  valid : row.Valid
  updatedAt : row.updatedAt = stamp
  entries : s'.entries = s.entries

theorem updatedAt_of_sequence {d : Draft} {stamp : Moment} {row : Sequence}
    (h : d.sequence stamp = .ok row) : row.updatedAt = stamp := by
  obtain ⟨period, -, hs⟩ := Except.bind_eq_ok.mp h
  have hupdated := (Sequence.ofFields_eq_ok hs).updatedAt
  simp [Fields.get_eq_ok, Table.get?_ofList] at hupdated
  exact Rule.moment_eq_ok hupdated

theorem create_eq_ok {i : Issuer} {d : Draft} {now : Option Moment} {s : Store} {row : Sequence}
    (h : (i.create d now s).1 = .ok row) :
    Made s row (now.getD s.clock) (i.create d now s).2 := by
  rcases Operation.create_cases i d now s with
    ⟨failure, herr, -⟩ | ⟨t, drafted, -, hdrafted, -, hanswer, hchanged⟩
  · rw [herr] at h
    cases h
  · rw [hanswer] at h
    cases h
    have hfresh := Draft.sequence_eq_ok hdrafted
    have hupdated : drafted.updatedAt = now.getD s.clock := updatedAt_of_sequence hdrafted
    refine ⟨?_, rfl, ⟨hfresh.current, hfresh.version, hfresh.lastResetAt, hfresh.step⟩,
      (Draft.valid_of_sequence hdrafted).stored s, hupdated, ?_⟩
    · exact (hchanged.row? drafted.key).trans (if_pos (beq_self_eq_true drafted.key))
    · exact hchanged.entries.trans (List.append_nil _)

theorem reachable_create (i : Issuer) (d : Draft) (now : Option Moment) {s : Store}
    (hs : s.Reachable) : (i.create d now s).2.Reachable := by
  have hrun : (Operation.run i (.create d now) s).2 = (i.create d now s).2 := by
    show ((Answer.row <$> i.create d now) s).2 = _
    rw [StoreM.map_apply]
  rw [← hrun]
  exact hs.run i (.create d now)

end Issuer

end SerialNumbers
