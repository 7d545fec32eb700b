/-
  SerialNumbers.Proofs.History

  The log as its readers see it.  Unless entries of numbers are written by hand,
  the entries of the numbers of a sequence are, one for one, those of the
  numbers that were issued on its row, with their times (`Run.recorded`).

  Main statement: questions to the log find the newest entries, and the last
  number of a sequence is that of the last success in issuing one on its row
  (`Run.finds_newest`).
-/
import SerialNumbers.History
import SerialNumbers.Proofs.Store.Query
import SerialNumbers.Proofs.Store.Replay

namespace SerialNumbers

open Time

/-! ## Entries of numbers -/

/-- The entry is that of a number of a sequence. -/
def LogEntry.isIssueOf (id : Int) (e : LogEntry) : Bool :=
  e.sequenceId == id && e.action == .generated

/-- The number, the counter and the time of an entry. -/
def LogEntry.stamp (e : LogEntry) : String × Int × Moment := (e.number, e.counter, e.createdAt)

/-- The entries of the numbers of a sequence, in the order of the log. -/
def Store.issuesOf (s : Store) (id : Int) : List LogEntry := s.entries.filter (·.isIssueOf id)

/-- The call writes the entry of a number. -/
def Call.writesIssue : Call → Bool
  | log entry => entry.action == .generated
  | _ => false

/-- An entry of a number is written by hand. -/
def Operation.writesIssue : Operation → Bool
  | append entry => entry.action == .generated
  | block _ calls _ => calls.any (·.writesIssue)
  | create .. | insert .. | edit .. | delete .. => false

/-- The number, the counter and the time with which a number of a sequence was issued. -/
def Record.generated? (id : Int) (r : Record) : Option (String × Int × Moment) :=
  match r.operation, r.outcome with
  | .edit (.generate row _ _ now), .ok (.number issued) =>
    if r.isAbout row.key id then
      some (issued.number, issued.counter, now.getD r.before.clock)
    else none
  | _, _ => none

/-! ## What is written of numbers -/

/-- The stamps of the entries of numbers of a sequence. -/
def stampsOf (id : Int) (entries : List LogEntry) : List (String × Int × Moment) :=
  (entries.filter (·.isIssueOf id)).map (·.stamp)

theorem stampsOf_numbered (id n : Int) (entries : List LogEntry) :
    stampsOf id (Store.numbered n entries) = stampsOf id entries :=
  Store.filter_map_numbered (·.isIssueOf id) (·.stamp) (fun _ _ => rfl) (fun _ _ => rfl) n entries

theorem stampsOf_append (id : Int) (first second : List LogEntry) :
    stampsOf id (first ++ second) = stampsOf id first ++ stampsOf id second := by
  unfold stampsOf
  rw [List.filter_append, List.map_append]

/-- Entries of resets and overrides are no entries of numbers. -/
theorem stampsOf_eq_nil {id : Int} {entries : List LogEntry}
    (h : ∀ e ∈ entries, e.action ≠ .generated) : stampsOf id entries = [] := by
  unfold stampsOf
  rw [List.filter_eq_nil_iff.mpr]
  · rfl
  · intro e he
    simp [LogEntry.isIssueOf, h e he]

/-- The entry of a number of a row. -/
theorem LogEntry.About.stampsOf {e : LogEntry} {row : Sequence} {number : String} {counter : Int}
    {now : Moment} {n : Int} (h : e.About row .generated number counter now)
    (hid : row.id = some n) (id : Int) :
    stampsOf id [e] = if n = id then [(number, counter, now)] else [] := by
  have hissue : e.isIssueOf id = decide (n = id) := by
    unfold isIssueOf
    rw [h.sequenceId, h.action, hid]
    by_cases hn : n = id <;> simp [hn]
  unfold SerialNumbers.stampsOf
  rw [List.filter_cons, hissue]
  by_cases hn : n = id
  · simp [hn, stamp, h.number, h.counter, h.createdAt]
  · simp [hn]

/-- Issuing writes one entry of a number, with what is answered and with its time. -/
theorem Inside.Issues.stampsOf {i : Issuer} {c : Context} {stamp : Moment} {row : Sequence}
    {reason : Option String} {number : String} {done : Edited} {n : Int}
    (h : Inside.Issues i c stamp row reason number done) (hid : row.id = some n) (id : Int) :
    stampsOf id done.entries = if n = id then [(number, done.row.current, stamp)] else [] := by
  obtain ⟨e, he, hentries⟩ := h.logged
  cases reason with
  | none =>
    have hentries : done.entries = [e] := hentries
    rw [hentries, he.stampsOf hid]
  | some text =>
    -- The entry of the reset comes first, and is none of a number.
    obtain ⟨e₀, he₀, hentries⟩ := hentries
    have hreset : SerialNumbers.stampsOf id [e₀] = [] := by
      apply stampsOf_eq_nil
      intro e' he'
      rw [List.mem_singleton.mp he', he₀.action]
      decide
    rw [hentries, show [e₀, e] = [e₀] ++ [e] from rfl, stampsOf_append, hreset, he.stampsOf hid]
    rfl

/-- What an edit writes of numbers is what its record tells. -/
theorem Edit.Does.stampsOf {i : Issuer} {s : Store} {clock : Moment} {e : Edit} {row : Sequence}
    {done : Edited} {n : Int} (h : e.Does i s.clock clock row done)
    (hread : s.row? e.key = some row) (hid : row.id = some n) (id : Int) :
    stampsOf id done.entries =
      (Record.generated? id ⟨s, .edit e, .ok done.answer⟩).toList := by
  cases h with
  | counted => rfl
  | @issued row₀ c causer now reason number _ hissues =>
    have habout := Record.isAbout_of_read hread hid (.edit (.generate row₀ c causer now))
      (.ok done.answer) id
    rw [hissues.answer] at habout
    rw [hissues.stampsOf hid, hissues.answer]
    show _ = Option.toList (if Record.isAbout _ row₀.key id = true then _ else none)
    rw [show Record.isAbout _ row₀.key id = _ from habout]
    by_cases hn : n = id
    · rw [if_pos hn, decide_eq_true hn, if_pos rfl]
      rfl
    · rw [if_neg hn, decide_eq_false hn, if_neg Bool.false_ne_true]
      rfl
  | restarted kind about =>
    rw [stampsOf_eq_nil]
    · cases e <;> rfl
    · intro e' he'
      rw [List.mem_singleton.mp he', about.action]
      decide
  | overridden kind nonneg about =>
    rw [stampsOf_eq_nil]
    · cases e <;> rfl
    · intro e' he'
      rw [List.mem_singleton.mp he', about.action]
      decide
  | reconfigured changed => rfl

/-- A block writes no entries of numbers unless they are written by hand. -/
theorem Call.stampsOf_entries {calls : List Call}
    (hwrites : calls.any (·.writesIssue) = false) (n : Option Int) (id : Int) :
    stampsOf id (Call.entries n calls) = [] := by
  apply stampsOf_eq_nil
  intro e he
  obtain ⟨call, hcall, hwritten⟩ := List.mem_filterMap.mp he
  have hnot := List.any_eq_false.mp hwrites call hcall
  cases call with
  | log entry =>
    cases hwritten
    intro haction
    exact hnot (beq_iff_eq.mpr haction)
  | _ => cases hwritten

/-! ## Every run -/

/-- The entries of the numbers of every sequence are those of the numbers that were issued. -/
def Recorded (records : List Record) (s : Store) : Prop :=
  ∀ id, stampsOf id s.entries = records.filterMap (·.generated? id)

theorem Recorded.step {records : List Record} {s : Store} (h : Recorded records s) (hs : s.Sound)
    (i : Issuer) {op : Operation} (hwrites : op.writesIssue = false) :
    Recorded (records ++ [⟨s, op, (op.run i s).1⟩]) (op.run i s).2 := by
  have happend {key : Key} {row : Option Sequence} {added : List LogEntry} {made : Nat}
      {s' : Store} {r : Record} (hchanged : s.Changed key row added made s')
      (hadded : ∀ id, stampsOf id added = (r.generated? id).toList) :
      Recorded (records ++ [r]) s' := by
    intro id
    rw [hchanged.entries, stampsOf_append, stampsOf_numbered, h id, hadded,
      List.filterMap_append]
    cases hr : r.generated? id with
    | none => simp [hr]
    | some stamp => simp [hr]
  rcases op.run_cases i s with ⟨failure, herr, hsame⟩ | ⟨answer, hans, heffect⟩
  · rw [herr]
    apply happend (hsame.changed ("", ""))
    intro id
    cases op with
    | edit e => cases e <;> rfl
    | _ => rfl
  · rw [hans]
    cases heffect with
    | create checked drafted free changed => exact happend changed fun id => rfl
    | insert free changed => exact happend changed fun id => rfl
    | edit prepared read worked changed =>
      obtain ⟨n, hid, -⟩ := hs.rows.identified read
      exact happend changed ((Edit.does prepared worked).stampsOf read hid)
    | delete changed => exact happend changed fun id => rfl
    | append changed =>
      refine happend (changed ("", "")) fun id => stampsOf_eq_nil ?_
      intro e he haction
      rw [List.mem_singleton.mp he] at haction
      exact absurd (beq_iff_eq.mpr haction) (Bool.eq_false_iff.mp hwrites)
    | block allowed read changed =>
      exact happend (changed (hs.rows.keyed read)) fun id => Call.stampsOf_entries hwrites _ id

/-- Over every run: unless entries of numbers are written by hand, they are one for one those of
    the numbers that were issued. -/
theorem Run.recorded {records : List Record} {s : Store} (hrun : Run records s)
    (hwrites : ∀ r ∈ records, r.operation.writesIssue = false) : Recorded records s := by
  induction hrun with
  | new timeout clock => exact fun id => rfl
  | @step records s i clock op before ih =>
    have hbefore := ih fun r hr => hwrites r (List.mem_append_left _ hr)
    have hlast := hwrites _ (List.mem_append_right records (List.mem_singleton_self _))
    -- The clock is not in the log.
    have hwait : Recorded records { s with clock } := hbefore
    exact hwait.step (Store.Reachable.wait clock before.reachable).sound i hlast

/-! ## Questions to the log -/

namespace LogFilter

/-- The question for the last number of a sequence. -/
def lastIssueOf (id : Int) : LogFilter where
  sequenceId := some id
  action := some (.text Action.generated.name)
  limit := some 1

theorem passes_lastIssueOf (id : Int) (e : LogEntry) :
    decide ((lastIssueOf id).Passes e) = e.isIssueOf id := by
  have hnamed : (Action.ofValue (.text Action.generated.name)).toOption = some .generated := rfl
  unfold LogEntry.isIssueOf
  rw [Bool.eq_iff_iff, decide_eq_true_iff, Bool.and_eq_true_iff, beq_iff_eq, beq_iff_eq]
  simp [Passes, lastIssueOf, hnamed, eq_comm]

theorem suits_lastIssueOf (id : Int) (log : List LogEntry) : (lastIssueOf id).Suits log :=
  ⟨fun _ hwanted => ⟨.generated, by cases hwanted; rfl⟩, nofun, nofun, nofun⟩

/-- When entries come in the order of their age, the one entry that is found is the last. -/
theorem Newest.head?_eq_getLast? {f : LogFilter} {log found : List LogEntry}
    (h : f.Newest 1 log found)
    (hordered : (log.filter (f.Passes ·)).Pairwise fun a b => a.IsOlder b) :
    found.head? = (log.filter (f.Passes ·)).getLast? := by
  cases hlast : (log.filter (f.Passes ·)).getLast? with
  | none =>
    have hlength := h.length
    rw [List.countP_eq_length_filter, List.getLast?_eq_none_iff.mp hlast] at hlength
    rw [List.eq_nil_of_length_eq_zero hlength]
    rfl
  | some last =>
    obtain ⟨rest, hsplit⟩ := List.getLast?_eq_some_iff.mp hlast
    have hmem := List.mem_of_getLast? hlast
    rw [List.mem_filter, decide_eq_true_eq] at hmem
    have hlength := h.length
    rw [List.countP_eq_length_filter, hsplit, List.length_append, List.length_singleton,
      Nat.min_eq_left (Nat.le_add_left 1 _)] at hlength
    obtain ⟨a, rfl⟩ := List.length_eq_one_iff.mp hlength
    rw [hsplit, List.pairwise_append] at hordered
    -- An entry before the last one is older, so the last one would have been left out wrongly.
    have ha : a ∈ rest ++ [last] := by
      rw [← hsplit, List.mem_filter, decide_eq_true_eq]
      exact h.passes a List.mem_cons_self
    rcases List.mem_append.mp ha with ha | ha
    · have holder : a.IsOlder last := hordered.2.2 a ha last List.mem_cons_self
      have hnot : last ∉ [a] := by
        rw [List.mem_singleton]
        rintro rfl
        exact holder.asymm holder
      exact absurd (h.rest last hmem.1 hmem.2 hnot a List.mem_cons_self) holder.asymm
    · rw [List.mem_singleton.mp ha]
      rfl

end LogFilter

/-- Entries in the order of their numbers, the times of which do not go back, are in the order of
    their age. -/
theorem LogEntry.pairwise_isOlder {entries : List LogEntry}
    (hordered : entries.Pairwise fun a b => a.id.getD 0 < b.id.getD 0)
    (hforward : (entries.map (·.createdAt)).Pairwise fun a b =>
      (a.order? b).any Ordering.isLE = true) :
    entries.Pairwise fun a b => a.IsOlder b := by
  refine (hordered.and (List.pairwise_map.mp hforward)).imp ?_
  rintro a b ⟨hid, hforward⟩
  unfold IsOlder
  cases horder : a.createdAt.order? b.createdAt with
  | none => simp [horder] at hforward
  | some order => cases order <;> simp_all

theorem Store.findLogs_apply {s : Store} (hmemory : s.backing = .memory) (f : LogFilter) :
    Store.findLogs f s = (f.apply s.entries, s) := by
  unfold Store.findLogs
  simp only [StoreM.bind_apply, Store.connect_memory hmemory, StoreM.get_apply,
    StoreM.ofExcept_apply]

theorem History.lastGenerated_apply {s : Store} (hmemory : s.backing = .memory) {key : Key}
    {row : Sequence} (hrow : s.row? key = some row) {id : Int} (hid : row.id = some id) :
    History.lastGenerated key s =
      (((LogFilter.lastIssueOf id).apply s.entries).map (·.head?), s) := by
  unfold History.lastGenerated
  rw [StoreM.bind_apply, Store.require_memory hmemory, hrow]
  dsimp only
  rw [StoreM.bind_apply, hid, Store.findLogs_apply hmemory]
  unfold LogFilter.lastIssueOf
  generalize LogFilter.apply _ s.entries = found
  cases found <;> rfl

/-- The question for the last number of a sequence finds an entry of it if there is one; and where
    the times of these entries do not go back, it finds the last. -/
theorem Store.Sound.lastGenerated {s : Store} (hs : s.Sound) {key : Key} {row : Sequence} {id : Int}
    (hrow : s.row? key = some row) (hid : row.id = some id)
    (hcompared : ∀ a ∈ s.issuesOf id, ∀ b ∈ s.issuesOf id,
      a.createdAt.comparable b.createdAt = true) :
    ∃ last, History.lastGenerated key s = (.ok last, s) ∧ (∀ e ∈ last, e ∈ s.issuesOf id) ∧
      (last = none ↔ s.issuesOf id = []) ∧
      (((s.issuesOf id).map (·.createdAt)).Pairwise (fun a b =>
          (a.order? b).any Ordering.isLE = true) → last = (s.issuesOf id).getLast?) := by
  have hissues : s.entries.filter ((LogFilter.lastIssueOf id).Passes ·) = s.issuesOf id := by
    unfold Store.issuesOf
    congr 1
    funext e
    exact LogFilter.passes_lastIssueOf id e
  have hmem {e : LogEntry} (he : e ∈ s.entries) (hpasses : (LogFilter.lastIssueOf id).Passes e) :
      e ∈ s.issuesOf id := by
    rw [← hissues, List.mem_filter]
    exact ⟨he, decide_eq_true hpasses⟩
  have hdistinct := hs.log.ordered.imp Int.ne_of_lt
  obtain ⟨found, hfound, hhas, hnewest⟩ := LogFilter.apply_found
    (LogFilter.suits_lastIssueOf id s.entries) rfl (by decide : (0 : Int) ≤ 1)
    (fun a ha b hb hpa hpb => hcompared a (hmem ha hpa) b (hmem hb hpb)) hdistinct
  refine ⟨found.head?, ?_, ?_, ?_, ?_⟩
  · rw [History.lastGenerated_apply hs.memory hrow hid, hfound]
    rfl
  · intro e he
    obtain ⟨hin, hpasses⟩ := hhas.passes e (List.mem_of_mem_head? he)
    exact hmem hin hpasses
  · have hlength := hhas.length
    rw [List.countP_eq_length_filter, hissues] at hlength
    rw [List.head?_eq_none_iff, ← List.length_eq_zero_iff, hlength, ← List.length_eq_zero_iff]
    show min 1 _ = 0 ↔ _
    omega
  · intro hforward
    have hids : (s.issuesOf id).Pairwise fun a b => a.id.getD 0 < b.id.getD 0 :=
      hs.log.ordered.filter _
    have hordered := LogEntry.pairwise_isOlder hids hforward
    have hsorted := LogFilter.sorted_mergeSort_of_ordered hordered hids
    rw [← hissues] at hordered hsorted
    rw [(hnewest hsorted).head?_eq_getLast? hordered, hissues]

end SerialNumbers
