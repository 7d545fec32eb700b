/-
  SerialNumbers.Proofs.Store.Footprint

  What an edit takes from the log and what it leaves there.  It leaves entries
  about its own sequence only, and all that it takes is whether a number is
  among the entries of its own sequence.  So work that succeeds succeeds
  likewise with every log that tells the same story of that sequence, whatever
  else is in it and however the entries are numbered (`Edit.work_congr`).
-/
import SerialNumbers.Proofs.Store.Effect

namespace SerialNumbers

open Time

/-- The entry without its number. -/
def LogEntry.plain (e : LogEntry) : LogEntry := { e with id := none }

/-- The entries about a sequence. -/
def Store.entriesOf (s : Store) (id : Int) : List LogEntry :=
  s.entries.filter (·.sequenceId == id)

/-- The entries about a sequence after work on a row: those that it had, and those of the work if
    it is the sequence of the row. -/
theorem Store.Changed.entriesOf {s s' : Store} {key : Key} {row : Option Sequence}
    {added : List LogEntry} {made : Nat} (h : s.Changed key row added made s') {n : Int}
    (habout : ∀ e ∈ added, e.sequenceId = n) (id : Int) :
    s'.entriesOf id = s.entriesOf id ++ if n = id then numbered s.nextEntryId added else [] := by
  have hall : ∀ e ∈ numbered s.nextEntryId added, e.sequenceId = n :=
    forall_numbered (p := (· = n)) habout
  unfold Store.entriesOf
  rw [h.entries, List.filter_append]
  by_cases hn : n = id
  · rw [if_pos hn, (List.filter_eq_self (l := numbered s.nextEntryId added)).mpr]
    intro e he
    rw [hall e he, hn]
    exact beq_self_eq_true id
  · rw [if_neg hn, (List.filter_eq_nil_iff (l := numbered s.nextEntryId added)).mpr]
    intro e he
    rw [hall e he]
    simpa using hn

/-- What a log tells of a sequence. -/
def story (id : Int) (log : List LogEntry) : List LogEntry :=
  (log.filter (·.sequenceId == id)).map (·.plain)

theorem story_append (id : Int) (log log' : List LogEntry) :
    story id (log ++ log') = story id log ++ story id log' := by
  unfold story
  rw [List.filter_append, List.map_append]

/-- Numbering entries is no matter to what they tell. -/
theorem story_numbered (id n : Int) (entries : List LogEntry) :
    story id (Store.numbered n entries) = story id entries :=
  Store.filter_map_numbered (·.sequenceId == id) (·.plain) (fun _ _ => rfl) (fun _ _ => rfl) n
    entries

theorem story_eq_map {id : Int} {entries : List LogEntry} (h : ∀ e ∈ entries, e.sequenceId = id) :
    story id entries = entries.map (·.plain) := by
  unfold story
  rw [List.filter_eq_self.mpr]
  intro e he
  exact beq_iff_eq.mpr (h e he)

theorem story_eq_nil {id : Int} {entries : List LogEntry} (h : ∀ e ∈ entries, e.sequenceId ≠ id) :
    story id entries = [] := by
  unfold story
  rw [List.filter_eq_nil_iff.mpr]
  · rfl
  · intro e he
    simpa using h e he

/-! ## Looking for a number -/

theorem filterAuxM_eq_ok_nil {α : Type} {p : α → Except Failure Bool} {l acc : List α} :
    l.filterAuxM p acc = .ok [] ↔ acc = [] ∧ ∀ a ∈ l, p a = .ok false := by
  induction l generalizing acc with
  | nil =>
    constructor
    · intro h
      exact ⟨Except.ok.inj h, fun a ha => absurd ha List.not_mem_nil⟩
    · rintro ⟨rfl, -⟩
      rfl
  | cons a rest ih =>
    unfold List.filterAuxM
    rw [Except.bind_eq_ok]
    constructor
    · rintro ⟨b, hb, hrest⟩
      obtain ⟨hacc, hall⟩ := ih.mp hrest
      cases b with
      | true => cases hacc
      | false =>
        refine ⟨hacc, ?_⟩
        intro a' ha'
        rcases List.mem_cons.mp ha' with rfl | ha'
        · exact hb
        · exact hall a' ha'
    · rintro ⟨rfl, hall⟩
      exact ⟨false, hall a List.mem_cons_self,
        ih.mpr ⟨rfl, fun a' ha' => hall a' (List.mem_cons_of_mem a ha')⟩⟩

namespace LogFilter

/-- Nothing is found when no entry is accepted, and only then. -/
theorem apply_eq_ok_nil {f : LogFilter} {log : List LogEntry} (hlimit : f.limit = some 1) :
    f.apply log = .ok [] ↔ ∀ e ∈ log, f.accepts e = .ok false := by
  unfold apply List.filterM
  constructor
  · intro h
    obtain ⟨found, hfound, h⟩ := Except.bind_eq_ok.mp h
    obtain ⟨kept, hkept, hreverse⟩ := Except.bind_eq_ok.mp hfound
    split at h
    · cases h
    · have hfirst : firstOf f.limit (found.mergeSort isNewer) = [] := Except.ok.inj h
      rw [hlimit] at hfirst
      -- One entry at most is asked for, so there was none to choose from.
      have hempty : found = [] := by
        have hlength := congrArg List.length hfirst
        rw [firstOf] at hlength
        simp only [Int.reduceLT, if_false, List.length_take, List.length_mergeSort,
          List.length_nil, Int.toNat_one] at hlength
        cases found with
        | nil => rfl
        | cons e rest =>
          rw [List.length_cons] at hlength
          omega
      have hnil : kept = [] := by
        have hrev : kept.reverse = found := Except.ok.inj hreverse
        rw [hempty] at hrev
        exact List.reverse_eq_nil_iff.mp hrev
      rw [hnil] at hkept
      exact (filterAuxM_eq_ok_nil.mp hkept).2
  · intro h
    rw [filterAuxM_eq_ok_nil.mpr ⟨rfl, h⟩, hlimit]
    show Except.ok (firstOf (some 1) (([] : List LogEntry).mergeSort isNewer)) = Except.ok []
    rw [List.mergeSort_nil]
    rfl

theorem accepts_plain (f : LogFilter) (e : LogEntry) : f.accepts e.plain = f.accepts e := rfl

/-- An entry about another sequence is not accepted. -/
theorem accepts_other {f : LogFilter} {e : LogEntry} {id : Int} (hid : f.sequenceId = some id)
    (hne : e.sequenceId ≠ id) : f.accepts e = .ok false := by
  unfold accepts ifGiven
  rw [hid]
  have hfalse : (Option.all (· == e.sequenceId) (some id)) = false := by
    simpa using hne.symm
  rw [hfalse]
  rfl

/-- Whether anything of a sequence is accepted is told by its story. -/
theorem accepts_none_iff {f : LogFilter} {log : List LogEntry} {id : Int}
    (hid : f.sequenceId = some id) :
    (∀ e ∈ log, f.accepts e = .ok false) ↔ ∀ e ∈ story id log, f.accepts e = .ok false := by
  constructor
  · intro h e he
    obtain ⟨e', he', rfl⟩ := List.mem_map.mp he
    rw [accepts_plain]
    exact h e' (List.mem_filter.mp he').1
  -- An entry about another sequence is never accepted.
  · intro h e he
    by_cases hne : e.sequenceId = id
    · rw [← accepts_plain]
      exact h _ (List.mem_map_of_mem (List.mem_filter.mpr ⟨he, beq_iff_eq.mpr hne⟩))
    · exact accepts_other hid hne

end LogFilter

namespace Issuer

theorem issuedFilter_eq_ok {i : Issuer} {row : Sequence} {now : Moment} {f : LogFilter}
    (h : i.issuedFilter row now = .ok f) : f.sequenceId = row.id ∧ f.limit = some 1 := by
  unfold issuedFilter at h
  dsimp only at h
  split at h
  · cases h
    exact ⟨rfl, rfl⟩
  · cases h
    exact ⟨rfl, rfl⟩
  · cases h
    exact ⟨rfl, rfl⟩
  · cases h

/-- That a number was not issued is told by the story of its sequence. -/
theorem unissued_congr {i : Issuer} {now : Moment} {log log' : List LogEntry} {row : Sequence}
    {id : Int} (hid : row.id = some id) (hstory : story id log = story id log')
    (h : i.unissued now log row = .ok ()) : i.unissued now log' row = .ok () := by
  unfold unissued at h ⊢
  obtain ⟨f, hf, h⟩ := Except.bind_eq_ok.mp h
  obtain ⟨found, hfound, h⟩ := Except.bind_eq_ok.mp h
  cases found with
  | cons e rest =>
    obtain ⟨number, -, h⟩ := Except.bind_eq_ok.mp h
    cases h
  | nil =>
    obtain ⟨hsequence, hlimit⟩ := issuedFilter_eq_ok hf
    rw [hid] at hsequence
    have hnone : ∀ e ∈ log', f.accepts e = .ok false := by
      rw [LogFilter.accepts_none_iff hsequence, ← hstory, ← LogFilter.accepts_none_iff hsequence]
      exact (LogFilter.apply_eq_ok_nil hlimit).mp hfound
    rw [hf, Except.ok_bind, (LogFilter.apply_eq_ok_nil hlimit).mpr hnone]
    rfl

end Issuer

/-! ## Edits -/

namespace Edit

variable {i : Issuer} {begun clock : Moment} {log log' : List LogEntry} {row : Sequence}
  {done : Edited} {work : Work}

/-- All that an override takes from the log is what it finds there for its row. -/
theorem override_work (value : Int) (reason causer : Value) (stamp clock : Moment)
    (look : List LogEntry → Sequence → Except Failure Unit) (log : List LogEntry)
    (row : Sequence) :
    (Inside.override value reason causer stamp look).work rowAnswer clock log row =
      if value < 0 then .error (.value (.negativeCounter value))
      else do
        look log (row.overridden value stamp)
        let entry ← LogEntry.about (row.overridden value stamp) .overridden "" value [] reason causer
          stamp
        return ⟨row.overridden value stamp,
          [{ entry with sequenceId := row.id.getD entry.sequenceId }],
          .row (row.overridden value stamp)⟩ := by
  unfold Inside.work Inside.override Transaction.override
  split
  · rfl
  · show (look log (row.overridden value stamp) >>= _) >>= _ = _
    cases look log (row.overridden value stamp) with
    | error e => rfl
    | ok found =>
      show (LogEntry.about (row.overridden value stamp) .overridden "" value [] reason causer stamp
        >>= _) >>= _ = _
      cases LogEntry.about (row.overridden value stamp) .overridden "" value [] reason causer
        stamp <;> rfl

/-- An override does the same with every log in which it finds the same. -/
theorem override_congr {value : Int} {reason causer : Value} {stamp : Moment}
    {look : List LogEntry → Sequence → Except Failure Unit}
    (hlook : ∀ {row'}, row'.id = row.id → look log row' = .ok () → look log' row' = .ok ())
    (h : (Inside.override value reason causer stamp look).work rowAnswer clock log row = .ok done) :
    (Inside.override value reason causer stamp look).work rowAnswer clock log' row = .ok done := by
  rw [override_work] at h ⊢
  split at h
  · cases h
  · rename_i hvalue
    obtain ⟨_, hfound, hrest⟩ := Except.bind_eq_ok.mp h
    have hsame : (row.overridden value stamp).id = row.id := rfl
    rw [if_neg hvalue, hlook hsame hfound]
    exact hrest

/-- Work that succeeds does the same with every log that tells the same of its sequence. -/
theorem work_congr {e : Edit} {id : Int} (hid : row.id = some id)
    (hstory : story id log = story id log') (hprepare : e.prepare i begun = .ok work)
    (hwork : work clock log row = .ok done) : work clock log' row = .ok done := by
  cases e with
  | generate row₀ c causer now =>
    obtain ⟨t, ht, rfl⟩ := prepare_generate_eq_ok hprepare
    exact hwork
  | override row₀ value reason causer now =>
    rw [← Except.ok.inj hprepare] at hwork ⊢
    refine override_congr ?_ hwork
    intro row' hrow' hfound
    exact Issuer.unissued_congr (hrow'.trans hid) hstory hfound
  | _ =>
    -- No other work looks at the log.
    rw [← Except.ok.inj hprepare] at hwork ⊢
    exact hwork

end Edit

end SerialNumbers
