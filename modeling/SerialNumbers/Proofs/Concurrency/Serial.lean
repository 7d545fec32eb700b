/-
  SerialNumbers.Proofs.Concurrency.Serial

  Any interleaving is a serial run.  The serial store of a world is what one
  client alone would have made of the store by the committed edits, one after
  another in the order of their commits.  The invariant `Serial` ties the world
  to it: the rows are the same, what a client has read is what is stored, what
  it has worked out is what the serial store would give, and the log tells the
  same of each sequence but for the entries that are still to be written.
-/
import SerialNumbers.Proofs.Concurrency.Exclusion
import SerialNumbers.Proofs.Store.Footprint
import SerialNumbers.Proofs.Store.Reachable

namespace SerialNumbers

open Time

/-! ## Commits one after another -/

/-- The committed edit, done by one client alone at the time at which it was worked out. -/
def Commit.rerun (c : Commit) (s : Store) : Except Failure Answer × Store :=
  c.task.edit.run c.task.issuer { s with clock := c.clock }

namespace Store

/-- The store after committed edits, done one after another. -/
def serial (s : Store) (commits : List Commit) : Store :=
  commits.foldl (fun s c => (c.rerun s).2) s

/-- What committed edits answer when they are done one after another. -/
def answers (s : Store) : List Commit → List (Except Failure Answer)
  | [] => []
  | c :: rest => (c.rerun s).1 :: answers (c.rerun s).2 rest

theorem serial_concat (s : Store) (commits : List Commit) (c : Commit) :
    s.serial (commits ++ [c]) = (c.rerun (s.serial commits)).2 := by
  unfold serial
  rw [List.foldl_append]
  rfl

theorem answers_concat (s : Store) (commits : List Commit) (c : Commit) :
    s.answers (commits ++ [c]) = s.answers commits ++ [(c.rerun (s.serial commits)).1] := by
  induction commits generalizing s with
  | nil => rfl
  | cons first rest ih =>
    show (first.rerun s).1 :: answers (first.rerun s).2 (rest ++ [c]) = _
    rw [ih]
    rfl

theorem Reachable.serial {s : Store} (hs : s.Reachable) (commits : List Commit) :
    (s.serial commits).Reachable := by
  induction commits generalizing s with
  | nil => exact hs
  | cons c rest ih => exact ih (.run c.task.issuer (.edit c.task.edit) (.wait c.clock hs))

end Store

/-- Commits of which each was on the row that the one before it has stored. -/
def Chained : Option Sequence → List Commit → Option Sequence → Prop
  | first, [], last => first = last
  | first, c :: rest, last => first = some c.opened ∧ Chained (some c.done.row) rest last

theorem Chained.concat {first : Option Sequence} {commits : List Commit} {c : Commit}
    (h : Chained first commits (some c.opened)) :
    Chained first (commits ++ [c]) (some c.done.row) := by
  induction commits generalizing first with
  | nil => exact ⟨h, rfl⟩
  | cons d rest ih => exact ⟨h.1, ih h.2⟩

/-! ## The invariant -/

/-- What a client knows is what is stored, what it has worked out is what the log of the serial
    store would give, and what it has to write is about its row. -/
def Phase.Agrees (s : Store) (log : List LogEntry) : Phase → Prop
  | opened t _ row => s.row? t.key = some row
  | ready t _ clock row done => s.row? t.key = some row ∧ t.work clock log row = .ok done
  | writing t _ rest => ∃ row id, s.row? t.key = some row ∧ row.id = some id ∧
      ∀ e ∈ rest, e.sequenceId = id
  | _ => True

namespace World

structure Serial (s₀ : Store) (w : World) : Prop where
  locked : w.Locked
  rows : ∀ key, w.store.row? key = (s₀.serial w.commits).row? key
  agrees : ∀ c, (w.phase c).Agrees w.store (s₀.serial w.commits).entries
  /-- While a client writes, what it has still to write is what the log lacks. -/
  behind : ∀ {c key rest row id}, (w.phase c).rest? = some (key, rest) →
    w.store.row? key = some row → row.id = some id →
    story id w.store.entries ++ rest.map (·.plain) = story id (s₀.serial w.commits).entries
  /-- While no client writes, the log lacks nothing. -/
  level : ∀ {key row id}, (∀ c rest, (w.phase c).rest? ≠ some (key, rest)) →
    w.store.row? key = some row → row.id = some id →
    story id w.store.entries = story id (s₀.serial w.commits).entries
  answers : s₀.answers w.commits = w.commits.map (.ok ·.done.answer)
  chained : ∀ key, Chained (s₀.row? key) (w.commitsAt key) (w.store.row? key)
  /-- The serial store has heard of a sequence what was committed at its key. -/
  told : ∀ {key row id}, w.store.row? key = some row → row.id = some id →
    story id (s₀.serial w.commits).entries =
      story id s₀.entries ++ (w.commitsAt key).flatMap (·.done.entries.map (·.plain))
  worked : ∀ c ∈ w.commits, ∃ log, c.task.work c.clock log c.opened = .ok c.done

theorem serial_start (s₀ : Store) : Serial s₀ (start s₀) := by
  refine ⟨locked_start s₀, fun _ => rfl, fun _ => trivial, ?_, fun _ _ _ => rfl, rfl, fun _ => rfl,
    fun _ _ => (List.append_nil _).symm, fun c hc => absurd hc List.not_mem_nil⟩
  intro c key rest row id hrest
  cases hrest

theorem inside?_of_rest? {p : Phase} {key : Key} {rest : List LogEntry}
    (h : p.rest? = some (key, rest)) : ∃ lock, p.inside? = some (key, lock) := by
  cases p with
  | writing t lock rest' =>
    cases h
    exact ⟨lock, rfl⟩
  | _ => cases h

/-- Agreement is about the rows alone once the log is given. -/
theorem agrees_of_rows {s s' : Store} {log : List LogEntry} {p : Phase}
    (hrows : ∀ key lock, p.inside? = some (key, lock) → s'.row? key = s.row? key)
    (h : p.Agrees s log) : p.Agrees s' log := by
  cases p with
  | opened t lock row =>
    show s'.row? t.key = some row
    rw [hrows t.key lock rfl]
    exact h
  | ready t lock clock row done =>
    refine ⟨?_, h.2⟩
    rw [hrows t.key lock rfl]
    exact h.1
  | writing t lock rest =>
    obtain ⟨row, id, hrow, hrest⟩ := h
    refine ⟨row, id, ?_, hrest⟩
    rw [hrows t.key lock rfl]
    exact hrow
  | _ => trivial

/-- A client comes further without touching rows or log, and has nothing to write. -/
theorem Serial.move {s₀ : Store} {w : World} (h : w.Serial s₀) {client : Nat} {p p' : Phase}
    {s : Store} (hphase : w.phase client = p) (hlocked : (w.put client p' s).Locked)
    (hrows : s.rows = w.store.rows) (hentries : s.entries = w.store.entries)
    (hagrees : p'.Agrees w.store (s₀.serial w.commits).entries) (hafter : p'.rest? = none)
    (hbefore : p.rest? = none ∨ ∃ key, p.rest? = some (key, [])) :
    (w.put client p' s).Serial s₀ := by
  subst hphase
  have hrow (key : Key) : s.row? key = w.store.row? key := congrArg (Table.get? · key) hrows
  refine ⟨hlocked, ?_, ?_, ?_, ?_, h.answers, ?_, ?_, h.worked⟩
  · intro key
    rw [put_store, hrow]
    exact h.rows key
  · intro c
    apply agrees_of_rows (fun key _ _ => hrow key)
    by_cases hne : c = client
    · subst hne
      rw [phase_put_self]
      exact hagrees
    · rw [phase_put_ne w p' s hne]
      exact h.agrees c
  · intro c key rest row id hrest hr hid
    rw [put_store, hrow] at hr
    rw [put_store, hentries]
    by_cases hne : c = client
    · subst hne
      rw [phase_put_self, hafter] at hrest
      cases hrest
    · rw [phase_put_ne w p' s hne] at hrest
      exact h.behind hrest hr hid
  · intro key row id hnone hr hid
    rw [put_store, hrow] at hr
    rw [put_store, hentries]
    by_cases hwas : ∃ rest, (w.phase client).rest? = some (key, rest)
    · obtain ⟨rest, hrest⟩ := hwas
      -- It has written all, so the log lacks nothing any more.
      have hnil : rest = [] := by
        rcases hbefore with hnone | ⟨key', hnil⟩
        · rw [hnone] at hrest
          cases hrest
        · rw [hnil] at hrest
          cases hrest
          rfl
      have hbehind := h.behind hrest hr hid
      rw [hnil] at hbehind
      rw [put_commits, ← hbehind]
      exact (List.append_nil _).symm
    · refine h.level ?_ hr hid
      intro c rest hrest
      by_cases hne : c = client
      · subst hne
        exact hwas ⟨rest, hrest⟩
      · refine hnone c rest ?_
        rw [phase_put_ne w p' s hne]
        exact hrest
  · intro key
    rw [put_store, hrow]
    exact h.chained key
  · intro key row id hr hid
    rw [put_store, hrow] at hr
    exact h.told hr hid

/-- Two clients inside have two keys. -/
theorem Locked.ne_of_inside {w : World} (h : w.Locked) {c c' : Nat} {key key' : Key} {lock lock' : Nat}
    (hc : (w.phase c).inside? = some (key, lock)) (hc' : (w.phase c').inside? = some (key', lock'))
    (hne : c ≠ c') : key ≠ key' := by
  rintro rfl
  exact hne (h.eq_of_inside ⟨lock, hc⟩ ⟨lock', hc'⟩)

/-- A row of the world stands under its key and has an id, as all rows of the serial store. -/
theorem Serial.identified {s₀ : Store} {w : World} (h : w.Serial s₀) (hs₀ : s₀.Reachable)
    {key : Key} {row : Sequence} (hrow : w.store.row? key = some row) :
    row.key = key ∧ ∃ id, row.id = some id := by
  have hsound := (hs₀.serial w.commits).sound.rows
  have hread : (s₀.serial w.commits).row? key = some row := (h.rows key).symm.trans hrow
  obtain ⟨id, hid, -⟩ := hsound.identified hread
  exact ⟨hsound.keyed hread, id, hid⟩

/-- Rows under two keys have two ids. -/
theorem Serial.id_ne {s₀ : Store} {w : World} (h : w.Serial s₀) (hs₀ : s₀.Reachable)
    {key key' : Key} {row row' : Sequence} {id id' : Int} (hne : key ≠ key')
    (hrow : w.store.row? key = some row) (hrow' : w.store.row? key' = some row')
    (hid : row.id = some id) (hid' : row'.id = some id') : id ≠ id' := by
  intro heq
  refine hne ((hs₀.serial w.commits).sound.rows.distinct ((h.rows key).symm.trans hrow)
    ((h.rows key').symm.trans hrow') ?_)
  rw [hid, hid', heq]

/-- The log lacks nothing of the row that a client is at and writes nothing about. -/
theorem Serial.level_of_inside {s₀ : Store} {w : World} (h : w.Serial s₀) {client lock : Nat}
    {key : Key} {row : Sequence} {id : Int}
    (hin : (w.phase client).inside? = some (key, lock))
    (hsilent : (w.phase client).rest? = none) (hrow : w.store.row? key = some row)
    (hid : row.id = some id) :
    story id w.store.entries = story id (s₀.serial w.commits).entries := by
  refine h.level ?_ hrow hid
  intro c rest hrest
  -- Whoever writes at the key is inside, so it is this client, which does not.
  obtain ⟨lock', hin'⟩ := inside?_of_rest? hrest
  have heq : c = client := h.locked.eq_of_inside ⟨lock', hin'⟩ ⟨lock, hin⟩
  rw [heq, hsilent] at hrest
  cases hrest

/-- A client writes the next of its entries. -/
theorem Serial.write {s₀ : Store} {w : World} (h : w.Serial s₀) (hs₀ : s₀.Reachable)
    {client lock : Nat} {t : Task} {entry : LogEntry} {rest : List LogEntry}
    (hwriting : w.phase client = .writing t lock (entry :: rest)) :
    (w.put client (.writing t lock rest) (w.store.append entry).2).Serial s₀ := by
  have hinside : (w.phase client).inside? = some (t.key, lock) := by rw [hwriting]; rfl
  have hpending : (w.phase client).rest? = some (t.key, entry :: rest) := by rw [hwriting]; rfl
  obtain ⟨row, id, hrow, hid, habout⟩ : ∃ row id, w.store.row? t.key = some row ∧
      row.id = some id ∧ ∀ e ∈ entry :: rest, e.sequenceId = id := by
    have hagrees := h.agrees client
    rw [hwriting] at hagrees
    exact hagrees
  have hlog (n : Int) : story n (w.store.append entry).2.entries =
      story n w.store.entries ++ story n [entry] := by
    show story n (w.store.entries ++ [{ entry with id := some w.store.nextEntryId }]) = _
    rw [story_append]
    congr 1
    exact story_numbered n w.store.nextEntryId [entry]
  -- No other sequence hears of the entry.
  have hother {key : Key} {r : Sequence} {n : Int} (hkey : key ≠ t.key)
      (hr : w.store.row? key = some r) (hn : r.id = some n) :
      story n (w.store.append entry).2.entries = story n w.store.entries := by
    have hne : id ≠ n := (h.id_ne hs₀ hkey hr hrow hn hid).symm
    have hnil : story n [entry] = [] := by
      apply story_eq_nil
      intro e he
      rw [List.mem_singleton.mp he, habout entry List.mem_cons_self]
      exact hne
    rw [hlog, hnil, List.append_nil]
  refine ⟨Guarded.locked (h.locked.guarded.keep hwriting rfl rfl rfl rfl), h.rows, ?_, ?_, ?_,
    h.answers, h.chained, h.told, h.worked⟩
  · intro c
    apply agrees_of_rows (s := w.store) (fun _ _ _ => rfl)
    by_cases hne : c = client
    · subst hne
      rw [phase_put_self]
      exact ⟨row, id, hrow, hid, fun e he => habout e (List.mem_cons_of_mem entry he)⟩
    · rw [phase_put_ne _ _ _ hne]
      exact h.agrees c
  · intro c key rest' r n hrest hr hn
    by_cases hne : c = client
    · subst hne
      rw [phase_put_self] at hrest
      cases hrest
      -- The entry moves from what is still to be written to the log.
      have hsame : r = row := Option.some.inj (hr.symm.trans hrow)
      subst hsame
      have hn : n = id := Option.some.inj (hn.symm.trans hid)
      subst hn
      have hone : story n [entry] = [entry.plain] :=
        story_eq_map fun e he => by
          rw [List.mem_singleton.mp he]
          exact habout entry List.mem_cons_self
      have hbehind := h.behind hpending hrow hid
      rw [put_store, hlog, hone, List.append_assoc]
      exact hbehind
    · rw [phase_put_ne _ _ _ hne] at hrest
      obtain ⟨lock', hin⟩ := inside?_of_rest? hrest
      rw [put_store, hother (h.locked.ne_of_inside hin hinside hne) hr hn]
      exact h.behind hrest hr hn
  · intro key r n hnone hr hn
    have hkey : key ≠ t.key := by
      rintro rfl
      refine hnone client rest ?_
      rw [phase_put_self]
      rfl
    rw [put_store, hother hkey hr hn]
    refine h.level ?_ hr hn
    intro c rest' hrest
    by_cases hne : c = client
    · subst hne
      rw [hpending, Option.some.injEq, Prod.mk.injEq] at hrest
      exact hkey hrest.1.symm
    · refine hnone c rest' ?_
      rw [phase_put_ne _ _ _ hne]
      exact hrest

/-- What was worked out under the lock is what one client alone would do. -/
theorem Serial.rerun {s₀ : Store} {w : World} (h : w.Serial s₀) (hs₀ : s₀.Reachable)
    {client lock : Nat} {t : Task} {clock : Moment} {row : Sequence} {done : Edited}
    (hready : w.phase client = .ready t lock clock row done) :
    let c : Commit := ⟨client, t, clock, row, done⟩
    row.key = t.key ∧ (c.rerun (s₀.serial w.commits)).1 = .ok done.answer ∧
      (s₀.serial w.commits).Settled t.key done (c.rerun (s₀.serial w.commits)).2 := by
  intro c
  -- One client alone finds no lock held and the same row, so its edit is done.
  have hsound := (Store.Reachable.wait clock (hs₀.serial w.commits)).sound
  have hagrees := h.agrees client
  rw [hready] at hagrees
  obtain ⟨hrow, hwork⟩ := hagrees
  have hread : (s₀.serial w.commits).row? t.key = some row := (h.rows t.key).symm.trans hrow
  have hkey := hsound.rows.keyed hread
  have hfree := Store.isBusy_of_free hsound.free t.edit.key
  have hrun := Edit.run_eq_ok hsound.memory hfree hread hkey (t.prepared clock) hwork
  rw [hkey] at hrun
  obtain ⟨hans, hsettled⟩ := hrun
  exact ⟨hkey, hans, ⟨hsettled.row?, hsettled.entries, hsettled.nextEntryId, hsettled.nextId,
    hsettled.held, hsettled.backing⟩⟩

/-- What is known when a client commits: it is inside and has nothing to write yet, the row that
    it has read is stored, and its entries are about that row; the row is replaced, and one
    client alone would have got the same answer and the same row. -/
structure Commits (s₀ : Store) (w : World) (c : Commit) (lock : Nat) (id : Int) (s : Store) :
    Prop where
  inside : (w.phase c.client).inside? = some (c.key, lock)
  silent : (w.phase c.client).rest? = none
  read : w.store.row? c.key = some c.opened
  identified : c.opened.id = some id
  same : c.opened.SameIdentity c.done.row
  about : ∀ e ∈ c.done.entries, e.sequenceId = id
  rows : ∀ key, s.row? key = if key == c.key then some c.done.row else w.store.row? key
  entries : s.entries = w.store.entries
  worked : c.task.work c.clock (s₀.serial w.commits).entries c.opened = .ok c.done
  answer : (c.rerun (s₀.serial w.commits)).1 = .ok c.done.answer
  settled : (s₀.serial w.commits).Settled c.key c.done (c.rerun (s₀.serial w.commits)).2

theorem Serial.commits {s₀ : Store} {w : World} (h : w.Serial s₀) (hs₀ : s₀.Reachable)
    {client lock : Nat} {t : Task} {clock : Moment} {row : Sequence} {done : Edited} {s : Store}
    (hready : w.phase client = .ready t lock clock row done)
    (hreplace : w.store.replaceRow row done.row = .ok s) :
    ∃ id, Commits s₀ w ⟨client, t, clock, row, done⟩ lock id s := by
  obtain ⟨hkey, hans, hsettled⟩ := h.rerun hs₀ hready
  obtain ⟨hrow, hwork⟩ : w.store.row? t.key = some row ∧
      t.work clock (s₀.serial w.commits).entries row = .ok done := by
    have hagrees := h.agrees client
    rw [hready] at hagrees
    exact hagrees
  obtain ⟨-, id, hid⟩ := h.identified hs₀ hrow
  have hmakes := t.edit.makes (t.prepared clock) hwork
  refine ⟨id, ?_, ?_, hrow, hid, hmakes.sameIdentity, ?_, ?_, ?_,
    hwork, hans, hsettled⟩
  · rw [hready]
    rfl
  · rw [hready]
    rfl
  · intro e he
    rw [hmakes.about e he, hid]
    rfl
  · intro key
    rw [Store.row?_replaceRow hreplace, hkey]
    rfl
  · obtain ⟨_, -, -, rfl⟩ := Store.replaceRow_eq_ok.mp hreplace
    rfl

namespace Commits

variable {s₀ : Store} {w : World} {c : Commit} {lock : Nat} {id : Int} {s : Store}

theorem row_ne (h : Commits s₀ w c lock id s) {key : Key} (hne : key ≠ c.key) :
    s.row? key = w.store.row? key := by
  rw [h.rows, if_neg (by simpa using hne)]

theorem story_rerun (h : Commits s₀ w c lock id s) (n : Int) :
    story n (c.rerun (s₀.serial w.commits)).2.entries =
      story n (s₀.serial w.commits).entries ++ story n c.done.entries := by
  rw [h.settled.entries, story_append, story_numbered]

/-- No other sequence hears of a commit. -/
theorem story_ne (h : Commits s₀ w c lock id s) (hserial : w.Serial s₀) (hs₀ : s₀.Reachable)
    {key : Key} {r : Sequence} {n : Int} (hne : key ≠ c.key) (hr : w.store.row? key = some r)
    (hn : r.id = some n) : story n (c.rerun (s₀.serial w.commits)).2.entries =
      story n (s₀.serial w.commits).entries := by
  have hids : id ≠ n := (hserial.id_ne hs₀ hne hr h.read hn h.identified).symm
  have hnil : story n c.done.entries = [] := by
    apply story_eq_nil
    intro e he
    rw [h.about e he]
    exact hids
  rw [h.story_rerun, hnil, List.append_nil]

/-- Before the commit the log lacks nothing of the row. -/
theorem level (h : Commits s₀ w c lock id s) (hserial : w.Serial s₀) :
    story id w.store.entries = story id (s₀.serial w.commits).entries :=
  hserial.level_of_inside h.inside h.silent h.read h.identified

theorem agrees (h : Commits s₀ w c lock id s) (hserial : w.Serial s₀) (hs₀ : s₀.Reachable)
    (client : Nat) : ((w.put c.client (.writing c.task lock c.done.entries) s).phase client).Agrees s
      (c.rerun (s₀.serial w.commits)).2.entries := by
  by_cases hne : client = c.client
  · subst hne
    rw [phase_put_self]
    refine ⟨c.done.row, id, ?_, h.same.id.trans h.identified, h.about⟩
    rw [h.rows]
    exact if_pos (beq_self_eq_true c.key)
  · rw [phase_put_ne _ _ _ hne]
    have hkeys {key : Key} {lock' : Nat} (hin : (w.phase client).inside? = some (key, lock')) :
        key ≠ c.key := hserial.locked.ne_of_inside hin h.inside hne
    apply agrees_of_rows (s := w.store) (fun key _ hin => h.row_ne (hkeys hin))
    have hagrees := hserial.agrees client
    -- A client that is ready elsewhere has worked with a log that tells its row the same now.
    cases hphase : w.phase client with
    | ready t lock' clock row done =>
      rw [hphase] at hagrees hkeys
      obtain ⟨hrow, hwork⟩ := hagrees
      obtain ⟨-, n, hn⟩ := hserial.identified hs₀ hrow
      refine ⟨hrow, t.edit.work_congr hn ?_ (t.prepared clock) hwork⟩
      exact (h.story_ne hserial hs₀ (hkeys rfl) hrow hn).symm
    | opened t lock' row =>
      rw [hphase] at hagrees
      exact hagrees
    | writing t lock' rest =>
      rw [hphase] at hagrees
      exact hagrees
    | _ => trivial

theorem behind (h : Commits s₀ w c lock id s) (hserial : w.Serial s₀) (hs₀ : s₀.Reachable)
    {client : Nat} {key : Key} {rest : List LogEntry} {r : Sequence} {n : Int}
    (hrest : ((w.put c.client (.writing c.task lock c.done.entries) s).phase client).rest? =
      some (key, rest)) (hr : s.row? key = some r) (hn : r.id = some n) :
    story n s.entries ++ rest.map (·.plain) =
      story n (c.rerun (s₀.serial w.commits)).2.entries := by
  rw [h.entries]
  by_cases hne : client = c.client
  · subst hne
    rw [phase_put_self] at hrest
    cases hrest
    -- This client has still to write all that the serial store has written at once.
    have hdone : c.done.row = r := by
      have hstored := (h.rows c.key).symm.trans hr
      rw [if_pos (beq_self_eq_true c.key)] at hstored
      exact Option.some.inj hstored
    have hid : n = id := by
      rw [← hdone, h.same.id, h.identified] at hn
      exact (Option.some.inj hn).symm
    subst hid
    rw [h.story_rerun, h.level hserial, story_eq_map h.about]
  · rw [phase_put_ne _ _ _ hne] at hrest
    obtain ⟨lock', hin⟩ := inside?_of_rest? hrest
    -- Another client writes at another key, of which the commit tells nothing.
    have hkeys := hserial.locked.ne_of_inside hin h.inside hne
    rw [h.row_ne hkeys] at hr
    rw [h.story_ne hserial hs₀ hkeys hr hn]
    exact hserial.behind hrest hr hn

theorem level_after (h : Commits s₀ w c lock id s) (hserial : w.Serial s₀) (hs₀ : s₀.Reachable)
    {key : Key} {r : Sequence} {n : Int}
    (hnone : ∀ client rest, ((w.put c.client (.writing c.task lock c.done.entries) s).phase
      client).rest? ≠ some (key, rest)) (hr : s.row? key = some r) (hn : r.id = some n) :
    story n s.entries = story n (c.rerun (s₀.serial w.commits)).2.entries := by
  -- At the key of the commit somebody writes now.
  have hkeys : key ≠ c.key := by
    rintro rfl
    refine hnone c.client c.done.entries ?_
    rw [phase_put_self]
    rfl
  rw [h.row_ne hkeys] at hr
  rw [h.entries, h.story_ne hserial hs₀ hkeys hr hn]
  refine hserial.level ?_ hr hn
  intro client rest hrest
  by_cases hne : client = c.client
  · rw [hne, h.silent] at hrest
    cases hrest
  · refine hnone client rest ?_
    rw [phase_put_ne _ _ _ hne]
    exact hrest

theorem chained (h : Commits s₀ w c lock id s) (hserial : w.Serial s₀) (key : Key) :
    Chained (s₀.row? key) (w.commitsAt key ++ if c.key == key then [c] else []) (s.row? key) := by
  have hchained := hserial.chained key
  rw [h.rows]
  by_cases hk : c.key = key
  · subst hk
    rw [h.read] at hchained
    rw [if_pos (beq_self_eq_true c.key), if_pos (beq_self_eq_true c.key)]
    exact hchained.concat
  · rw [if_neg (by simpa using hk), if_neg (by simpa using fun heq : key = c.key => hk heq.symm),
      List.append_nil]
    exact hchained

theorem told (h : Commits s₀ w c lock id s) (hserial : w.Serial s₀) (hs₀ : s₀.Reachable)
    {key : Key} {r : Sequence} {n : Int} (hr : s.row? key = some r) (hn : r.id = some n) :
    story n (c.rerun (s₀.serial w.commits)).2.entries = story n s₀.entries ++
      (w.commitsAt key ++ if c.key == key then [c] else []).flatMap
        (·.done.entries.map (·.plain)) := by
  by_cases hk : key = c.key
  · subst hk
    rw [h.rows, if_pos (beq_self_eq_true c.key), Option.some.injEq] at hr
    have hid : id = n := by
      rw [← hr, h.same.id, h.identified] at hn
      exact Option.some.inj hn
    subst hid
    rw [h.story_rerun, hserial.told h.read h.identified, story_eq_map h.about,
      if_pos (beq_self_eq_true c.key), List.flatMap_append, List.flatMap_singleton,
      List.append_assoc]
  · rw [h.row_ne hk] at hr
    rw [h.story_ne hserial hs₀ hk hr hn, hserial.told hr hn,
      if_neg (by simpa using fun heq : c.key = key => hk heq.symm), List.append_nil]

end Commits

/-- A client commits. -/
theorem Serial.commit {s₀ : Store} {w : World} (h : w.Serial s₀) (hs₀ : s₀.Reachable) {c : Commit}
    {lock : Nat} {id : Int} {s : Store} (hc : Commits s₀ w c lock id s)
    (hlocked : (w.commit c (.writing c.task lock c.done.entries) s).Locked) :
    (w.commit c (.writing c.task lock c.done.entries) s).Serial s₀ := by
  have hserial : s₀.serial (w.commits ++ [c]) = (c.rerun (s₀.serial w.commits)).2 :=
    s₀.serial_concat w.commits c
  refine ⟨hlocked, ?_, ?_, ?_, ?_, ?_, ?_, ?_, ?_⟩
  · intro key
    show s.row? key = (s₀.serial (w.commits ++ [c])).row? key
    rw [hserial, hc.settled.row?, hc.rows, h.rows]
  · intro client
    show Phase.Agrees s (s₀.serial (w.commits ++ [c])).entries _
    rw [hserial]
    exact hc.agrees h hs₀ client
  · intro client key rest r n hrest hr hn
    show _ = story n (s₀.serial (w.commits ++ [c])).entries
    rw [hserial]
    exact hc.behind h hs₀ hrest hr hn
  · intro key r n hnone hr hn
    show _ = story n (s₀.serial (w.commits ++ [c])).entries
    rw [hserial]
    exact hc.level_after h hs₀ hnone hr hn
  · show s₀.answers (w.commits ++ [c]) = (w.commits ++ [c]).map _
    rw [Store.answers_concat, h.answers, hc.answer, List.map_append]
    rfl
  · intro key
    rw [commitsAt_commit]
    exact hc.chained h key
  · intro key r n hr hn
    show story n (s₀.serial (w.commits ++ [c])).entries = _
    rw [hserial, commitsAt_commit]
    exact hc.told h hs₀ hr hn
  · intro d hd
    rcases List.mem_append.mp hd with hd | hd
    · exact h.worked d hd
    · rw [List.mem_singleton.mp hd]
      exact ⟨_, hc.worked⟩

/-- Every step of an edit keeps the world serial. -/
theorem Serial.step {s₀ : Store} (hs₀ : s₀.Reachable) {w w' : World} (h : w.Serial s₀)
    (hstep : EditStep w w') : w'.Serial s₀ := by
  have hlocked := h.locked.step hstep
  cases hstep with
  | stay => exact h
  | call hidle hprepare =>
    exact h.move hidle hlocked rfl rfl trivial rfl (.inl rfl)
  | lookUp hcalled =>
    exact h.move hcalled hlocked (Store.lockOf_rows _ _) (Store.lockOf_entries _ _) trivial rfl (.inl rfl)
  | acquire hwaiting hfree =>
    exact h.move hwaiting hlocked rfl rfl trivial rfl (.inl rfl)
  | giveUp hwaiting =>
    exact h.move hwaiting hlocked rfl rfl trivial rfl (.inl rfl)
  | read hholding hrow =>
    exact h.move hholding hlocked rfl rfl hrow rfl (.inl rfl)
  | miss hholding hrow =>
    exact h.move hholding hlocked rfl rfl trivial rfl (.inl rfl)
  | @work client lock t row done hopened hwork =>
    have hrow : w.store.row? t.key = some row := by
      have hagrees := h.agrees client
      rw [hopened] at hagrees
      exact hagrees
    obtain ⟨-, id, hid⟩ := h.identified hs₀ hrow
    have hin : (w.phase client).inside? = some (t.key, lock) := by rw [hopened]; rfl
    have hsilent : (w.phase client).rest? = none := by rw [hopened]; rfl
    -- The log may differ from that of the serial store, but not in what it tells of this row.
    have hlevel := h.level_of_inside hin hsilent hrow hid
    refine h.move hopened hlocked rfl rfl ?_ rfl (.inl rfl)
    exact ⟨hrow, t.edit.work_congr hid hlevel (t.prepared w.store.clock) hwork⟩
  | fail hopened hwork =>
    exact h.move hopened hlocked rfl rfl trivial rfl (.inl rfl)
  | commit hready hreplace =>
    obtain ⟨id, hc⟩ := h.commits hs₀ hready hreplace
    exact h.commit hs₀ hc hlocked
  | refuse hready hreplace =>
    exact h.move hready hlocked rfl rfl trivial rfl (.inl rfl)
  | write hwriting => exact h.write hs₀ hwriting
  | finish hwriting =>
    exact h.move hwriting hlocked rfl rfl trivial rfl (.inr ⟨_, rfl⟩)
  | leave hleaving =>
    exact h.move hleaving hlocked rfl rfl trivial rfl (.inl rfl)
  | tick clock =>
    -- The serial store has the times of its commits.
    exact ⟨hlocked, h.rows, h.agrees, h.behind, h.level, h.answers, h.chained, h.told, h.worked⟩

theorem Serial.run {s₀ : Store} (hs₀ : s₀.Reachable) {w : World} {acts : List Act}
    (hrun : (start s₀).run acts = some w) (hacts : ∀ a ∈ acts, a.isEdit = true) : w.Serial s₀ :=
  run_induction (fun h hstep => h.step hs₀ hstep) (serial_start s₀) hrun hacts

end World

end SerialNumbers
