/-
  SerialNumbers.Proofs.Store.Frame

  What an operation leaves alone.  An operation on the row of a key can change
  that row and write entries about its sequence, and nothing else
  (`Store.Sound.acts`).  Main statement: a row that an operation is not on stays
  as it is, and so does what the log says of its sequence
  (`Store.Sound.untouched`).
-/
import SerialNumbers.Proofs.Store.Footprint
import SerialNumbers.Proofs.Store.Reachable

namespace SerialNumbers

open Time

/-- The key of the row that the operation is on. -/
def Operation.subject? : Operation → Option Key
  | edit e => some e.key
  | delete key | block key _ _ => some key
  | create .. | insert .. | append .. => none

/-- All that calls write is about the sequence of their row. -/
theorem Call.sequenceId_of_entries {n : Int} {calls : List Call} :
    ∀ e ∈ Call.entries (some n) calls, e.sequenceId = n := by
  intro e he
  obtain ⟨call, -, hwritten⟩ := List.mem_filterMap.mp he
  cases call with
  | log entry =>
    cases hwritten
    rfl
  | _ => cases hwritten

namespace Store

variable {s s' : Store} {key : Key}

/-- An operation on the row of a key leaves there the same sequence or nothing, and writes about
    that sequence only. -/
theorem Sound.acts (hs : s.Sound) (i : Issuer) {op : Operation} (hop : op.subject? = some key) :
    ∃ row added, s.Changed key row added 0 (op.run i s).2 ∧
      (∀ new ∈ row, ∃ old, s.row? key = some old ∧ old.SameIdentity new) ∧
      ∀ e ∈ added, ∃ old, s.row? key = some old ∧ old.id = some e.sequenceId := by
  rcases op.run_cases i s with ⟨_, _, hsame⟩ | ⟨answer, _, heffect⟩
  · exact ⟨_, [], hsame.changed key, fun new hnew => ⟨new, hnew, new.sameIdentity_refl⟩,
      List.forall_mem_nil _⟩
  · cases heffect with
    -- These are on no row.
    | create => cases hop
    | insert => cases hop
    | append => cases hop
    | delete hchanged =>
      cases hop
      refine ⟨none, [], hchanged, ?_, List.forall_mem_nil _⟩
      rintro new ⟨⟩
    | @edit e row done work _ hprepared hread hworked hchanged =>
      cases hop
      have hmakes := e.makes hprepared hworked
      obtain ⟨n, hid, -⟩ := hs.rows.identified hread
      rw [hs.rows.keyed hread] at hchanged
      refine ⟨_, _, hchanged, ?_, ?_⟩
      · rintro new ⟨⟩
        exact ⟨row, hread, hmakes.sameIdentity⟩
      · intro entry hentry
        refine ⟨row, hread, ?_⟩
        rw [hmakes.about entry hentry, hid]
        rfl
    | @block _ calls row _ hallowed hread hchanged =>
      cases hop
      obtain ⟨n, hid, -⟩ := hs.rows.identified hread
      refine ⟨_, _, hchanged (hs.rows.keyed hread), ?_, ?_⟩
      · rintro new ⟨⟩
        exact ⟨row, hread, Call.sameIdentity_changes _ _ _⟩
      · intro entry hentry
        have hentry : entry ∈ Call.entries row.id calls := hentry
        rw [hid] at hentry
        exact ⟨row, hread, by rw [hid, Call.sequenceId_of_entries entry hentry]⟩

/-- What is written about other sequences is not among the entries of a sequence. -/
theorem Changed.entriesOf_other {row : Option Sequence} {added : List LogEntry} {made : Nat}
    (h : s.Changed key row added made s') {id : Int} (hother : ∀ e ∈ added, e.sequenceId ≠ id) :
    s'.entriesOf id = s.entriesOf id := by
  have hall : ∀ e ∈ numbered s.nextEntryId added, e.sequenceId ≠ id :=
    forall_numbered (p := (· ≠ id)) hother
  have hnone : (numbered s.nextEntryId added).filter (·.sequenceId == id) = [] := by
    rw [List.filter_eq_nil_iff]
    intro e he
    simpa using hall e he
  unfold Store.entriesOf
  rw [h.entries, List.filter_append, hnone, List.append_nil]

/-- A row that an operation is not on stays as it is, and so do the entries about its sequence,
    unless one is added by hand. -/
theorem Sound.untouched (hs : s.Sound) (i : Issuer) {op : Operation} {row : Sequence}
    (hrow : s.row? key = some row) (hop : op.subject? ≠ some key) :
    (op.run i s).2.row? key = some row ∧
      ∀ id ∈ row.id, (∀ entry, op = .append entry → entry.sequenceId ≠ id) →
        (op.run i s).2.entriesOf id = s.entriesOf id := by
  cases hsubject : op.subject? with
  | some k =>
    have hne : key ≠ k := by
      rintro rfl
      exact hop hsubject
    obtain ⟨new, added, hchanged, -, habout⟩ := hs.acts i hsubject
    refine ⟨?_, fun id hid _ => hchanged.entriesOf_other ?_⟩
    · rw [hchanged.row?, if_neg (by simpa using hne)]
      exact hrow
    · intro e he heq
      -- No two rows have one id, so the row with this id is not the one that was acted on.
      obtain ⟨old, hold, holdid⟩ := habout e he
      exact hne (hs.rows.distinct hrow hold (by rw [Option.mem_def.mp hid, holdid, heq]))
  | none =>
    -- A new row goes to a free place, which is not the place of this one.
    have hmade {new : Sequence} {t : Store} (hfree : s.row? new.key = none)
        (h : s.Changed new.key (some (Operation.stored s new)) [] 1 t) :
        t.row? key = some row ∧ ∀ id, t.entriesOf id = s.entriesOf id := by
      refine ⟨?_, fun id => h.entriesOf_other (List.forall_mem_nil _)⟩
      have hne : key ≠ new.key := by
        intro heq
        rw [← heq, hrow] at hfree
        cases hfree
      rw [h.row?, if_neg (by simpa using hne)]
      exact hrow
    rcases op.run_cases i s with ⟨_, _, hsame⟩ | ⟨answer, _, heffect⟩
    · exact ⟨(hsame.row? key).trans hrow,
        fun id _ _ => (hsame.changed key).entriesOf_other (List.forall_mem_nil _)⟩
    · cases heffect with
      | create hchecked hdrafted hfree hchanged =>
        obtain ⟨hkept, hentries⟩ := hmade hfree hchanged
        exact ⟨hkept, fun id _ _ => hentries id⟩
      | insert hfree hchanged =>
        obtain ⟨hkept, hentries⟩ := hmade hfree hchanged
        exact ⟨hkept, fun id _ _ => hentries id⟩
      | @append entry _ hchanged =>
        have hwritten := hchanged key
        refine ⟨?_, fun id _ happend => hwritten.entriesOf_other ?_⟩
        · rw [hwritten.row?, if_pos (beq_self_eq_true key)]
          exact hrow
        · intro e he
          rw [List.mem_singleton.mp he]
          exact happend entry rfl
      | edit => cases hsubject
      | delete => cases hsubject
      | block => cases hsubject

/-- Whatever is done, the log keeps its entries and only gets longer. -/
theorem Sound.entries_prefix (hs : s.Sound) (i : Issuer) (op : Operation) :
    s.entries <+: (op.run i s).2.entries := by
  obtain ⟨_, _, added, _, hchanged, -⟩ := hs.change i op
  rw [hchanged.entries]
  exact List.prefix_append _ _

end Store

end SerialNumbers
