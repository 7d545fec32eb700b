/-
  SerialNumbers.Proofs.Store.Transaction

  What a transaction does to a store.  When the work inside only looks at the
  clock and the log, the whole transaction has one equation: it fails before
  the row is read, or the work fails, or the commit is refused, and each time
  the store keeps its records; else the row takes the place of the one that was
  opened and the entries follow the log under consecutive numbers.
-/
import SerialNumbers.Proofs.Store.Action

namespace SerialNumbers

open Time

variable {α : Type}

namespace Store

open StoreM

/-! ## Writing entries -/

/-- Entries under consecutive numbers. -/
def numbered (n : Int) : List LogEntry → List LogEntry
  | [] => []
  | e :: rest => { e with id := some n } :: numbered (n + 1) rest

/-- Entries are numbered one after another. -/
theorem getElem?_numbered (n : Int) (entries : List LogEntry) (k : Nat) :
    (numbered n entries)[k]? = entries[k]?.map fun e => { e with id := some (n + k) } := by
  induction entries generalizing n k with
  | nil => rfl
  | cons e rest ih =>
    cases k with
    | zero =>
      show some { e with id := some n } = some { e with id := some (n + (0 : Nat)) }
      rw [Int.natCast_zero, Int.add_zero]
    | succ k =>
      have hsucc : n + 1 + (k : Int) = n + ((k + 1 : Nat) : Int) := by omega
      show (numbered (n + 1) rest)[k]? = _
      rw [ih, hsucc]
      rfl

theorem length_numbered (n : Int) (entries : List LogEntry) :
    (numbered n entries).length = entries.length := by
  induction entries generalizing n with
  | nil => rfl
  | cons e rest ih => exact congrArg (· + 1) (ih (n + 1))

theorem mem_numbered {n : Int} {entries : List LogEntry} {e : LogEntry}
    (h : e ∈ numbered n entries) : ∃ m, e.id = some m ∧ n ≤ m ∧ m < n + entries.length := by
  obtain ⟨k, hk, rfl⟩ := List.mem_iff_getElem.mp h
  have hlt : k < entries.length := by
    rw [length_numbered] at hk
    exact hk
  have hget := getElem?_numbered n entries k
  rw [List.getElem?_eq_getElem hk, List.getElem?_eq_getElem hlt] at hget
  exact ⟨n + k, congrArg LogEntry.id (Option.some.inj hget), by omega, by omega⟩

theorem ordered_numbered (n : Int) (entries : List LogEntry) :
    (numbered n entries).Pairwise fun a b => a.id.getD 0 < b.id.getD 0 := by
  induction entries generalizing n with
  | nil => exact .nil
  | cons first rest ih =>
    refine .cons ?_ (ih (n + 1))
    intro e he
    obtain ⟨m, hid, hle, -⟩ := mem_numbered he
    rw [hid]
    show n < m
    omega

/-- What numbering leaves as it is can be asked before it. -/
theorem filter_map_numbered {β : Type} (p : LogEntry → Bool) (f : LogEntry → β)
    (hp : ∀ e id, p { e with id } = p e) (hf : ∀ e id, f { e with id } = f e) (n : Int)
    (entries : List LogEntry) :
    ((numbered n entries).filter p).map f = (entries.filter p).map f := by
  induction entries generalizing n with
  | nil => rfl
  | cons e rest ih =>
    show (({ e with id := some n } :: numbered (n + 1) rest).filter p).map f = _
    rw [List.filter_cons, List.filter_cons, hp]
    cases p e with
    | false => exact ih (n + 1)
    | true =>
      show f { e with id := some n } :: _ = f e :: _
      rw [hf, ih]

theorem map_numbered {β : Type} (f : LogEntry → β) (hf : ∀ e id, f { e with id } = f e) (n : Int)
    (entries : List LogEntry) : (numbered n entries).map f = entries.map f := by
  have hall := filter_map_numbered (fun _ => true) f (fun _ _ => rfl) hf n entries
  rwa [List.filter_eq_self.mpr fun _ _ => rfl, List.filter_eq_self.mpr fun _ _ => rfl] at hall

theorem countP_numbered (p : LogEntry → Bool) (hp : ∀ e id, p { e with id } = p e) (n : Int)
    (entries : List LogEntry) : (numbered n entries).countP p = entries.countP p := by
  have hmap := map_numbered p hp n entries
  have hcount (l : List LogEntry) : l.countP p = (l.map p).countP id := by
    rw [List.countP_map]
    rfl
  rw [hcount, hcount, hmap]

theorem numbered_append (n : Int) (first second : List LogEntry) :
    numbered n (first ++ second) = numbered n first ++ numbered (n + first.length) second := by
  induction first generalizing n with
  | nil =>
    show numbered n second = numbered (n + (0 : Nat)) second
    rw [Int.natCast_zero, Int.add_zero]
  | cons e rest ih =>
    have hnext : n + ((e :: rest).length : Int) = n + 1 + (rest.length : Int) := by
      rw [List.length_cons]
      omega
    rw [hnext]
    exact congrArg ({ e with id := some n } :: ·) (ih (n + 1))

/-- What is true of the sequences of some entries is true when the entries have numbers. -/
theorem forall_numbered {p : Int → Prop} {n : Int} {entries : List LogEntry}
    (h : ∀ e ∈ entries, p e.sequenceId) : ∀ e ∈ numbered n entries, p e.sequenceId := by
  intro e he
  have hmem : e.sequenceId ∈ entries.map (·.sequenceId) := by
    rw [← map_numbered (·.sequenceId) (fun _ _ => rfl) n]
    exact List.mem_map_of_mem he
  obtain ⟨e', he', heq⟩ := List.mem_map.mp hmem
  rw [← heq]
  exact h e' he'

/-- The store with entries at the end of its log. -/
def appendEach (s : Store) (entries : List LogEntry) : Store :=
  { s with
    entries := s.entries ++ numbered s.nextEntryId entries
    nextEntryId := s.nextEntryId + entries.length }

@[simp] theorem appendEach_nil (s : Store) : s.appendEach [] = s := by
  unfold appendEach numbered
  rw [List.append_nil, List.length_nil, Int.natCast_zero, Int.add_zero]

theorem appendEach_cons (s : Store) (e : LogEntry) (rest : List LogEntry) :
    s.appendEach (e :: rest) = (s.append e).2.appendEach rest := by
  unfold appendEach append
  have hlog : s.entries ++ numbered s.nextEntryId (e :: rest) =
      (s.entries ++ [{ e with id := some s.nextEntryId }]) ++
        numbered (s.nextEntryId + 1) rest := by
    rw [List.append_assoc]
    rfl
  have hnext : s.nextEntryId + ((e :: rest).length : Int) =
      s.nextEntryId + 1 + (rest.length : Int) := by
    rw [List.length_cons]
    omega
  simp only [hlog, hnext]

theorem appendAll_apply (entries : List LogEntry) (s : Store) :
    appendAll entries s = (.ok (numbered s.nextEntryId entries), s.appendEach entries) := by
  induction entries generalizing s with
  | nil =>
    rw [appendEach_nil]
    rfl
  | cons e rest ih =>
    unfold appendAll
    simp only [bind_apply, step_apply, ih, pure_apply]
    rw [appendEach_cons]
    rfl

/-! ## Committing -/

/-- The store after a commit. -/
def committed (s : Store) (tx : Transaction) : Except Failure Store :=
  (if tx.isDirty then s.replaceRow tx.opened tx.current else .ok s).map (·.appendEach tx.pending)

/-- The transaction after its commit. -/
def closed (s : Store) (tx : Transaction) : Transaction :=
  { tx with
    written := if tx.pending.isEmpty then tx.written else numbered s.nextEntryId tx.pending
    committed := true }

/-- A row is put in when its place is free, and takes the next id. -/
theorem insertRow_eq_ok {s s' : Store} {row stored : Sequence} :
    s.insertRow row = .ok (stored, s') ↔ s.row? row.key = none ∧
      stored = { row with id := some s.nextId } ∧
      s' = { s with rows := s.rows.insert row.key stored, nextId := s.nextId + 1 } := by
  unfold insertRow
  cases s.row? row.key with
  | some old => exact ⟨nofun, fun ⟨h, _⟩ => nomatch h⟩
  | none =>
    constructor
    · intro h
      cases h
      exact ⟨rfl, rfl, rfl⟩
    · rintro ⟨-, rfl, rfl⟩
      rfl

/-- A row is replaced when there is one under its key, at the version that was read. -/
theorem replaceRow_eq_ok {s s' : Store} {opened updated : Sequence} :
    s.replaceRow opened updated = .ok s' ↔ ∃ stored, s.row? opened.key = some stored ∧
      stored.version = opened.version ∧
      s' = { s with rows := s.rows.insert opened.key updated } := by
  unfold replaceRow
  cases s.row? opened.key with
  | none => exact ⟨nofun, fun ⟨_, h, _⟩ => nomatch h⟩
  | some stored =>
    dsimp only
    by_cases hv : stored.version == opened.version
    · rw [if_pos hv]
      constructor
      · intro h
        exact ⟨stored, rfl, eq_of_beq hv, (Except.ok.inj h).symm⟩
      · rintro ⟨_, ⟨⟩, -, rfl⟩
        rfl
    · rw [if_neg hv]
      constructor
      · intro h
        cases h
      · rintro ⟨_, ⟨⟩, heq, -⟩
        exact absurd (beq_iff_eq.mpr heq) hv

theorem commit_apply (tx : Transaction) (s : Store) :
    commit tx s = match s.committed tx with
      | .ok s' => (.ok (s.closed tx), s')
      | .error e => (.error e, s) := by
  -- The entries are written in the same way whether the row was replaced before or not.
  have hwrite (s₁ : Store) (hn : s₁.nextEntryId = s.nextEntryId) :
      (do let written ← if tx.pending.isEmpty then pure tx.written else appendAll tx.pending
          return { tx with written, committed := true } : StoreM Transaction) s₁ =
        (.ok (s.closed tx), s₁.appendEach tx.pending) := by
    unfold closed
    by_cases hp : tx.pending.isEmpty
    · rw [List.isEmpty_iff.mp hp, appendEach_nil]
      rfl
    · simp only [hp, Bool.false_eq_true, if_false, bind_apply, appendAll_apply, pure_apply, hn]
  unfold commit committed
  by_cases hd : tx.isDirty
  · simp only [hd, if_true]
    unfold replace
    rw [bind_apply, bind_apply, attempt_apply]
    rcases h : s.replaceRow tx.opened tx.current with e | s₁
    · rfl
    · obtain ⟨_, -, -, rfl⟩ := replaceRow_eq_ok.mp h
      exact hwrite _ rfl
  · simp only [hd, Bool.false_eq_true, if_false]
    exact hwrite s rfl

/-- A row that is still there can be committed. -/
theorem committed_of_row? {s : Store} (tx : Transaction)
    (h : s.row? tx.opened.key = some tx.opened) : ∃ s', s.committed tx = .ok s' := by
  unfold committed
  split
  · rw [replaceRow_eq_ok.mpr ⟨tx.opened, h, rfl, rfl⟩]
    exact ⟨_, rfl⟩
  · exact ⟨_, rfl⟩

/-- Holding a lock is no matter to a commit. -/
theorem committed_hold (s : Store) (lock : Nat) (tx : Transaction) :
    (s.hold lock).committed tx = (s.committed tx).map (·.hold lock) := by
  unfold committed
  by_cases hd : tx.isDirty
  · simp only [hd, if_true, replaceRow_hold]
    cases s.replaceRow tx.opened tx.current <;> rfl
  · simp only [hd, Bool.false_eq_true, if_false]
    rfl

/-! ## Transactions -/

/-- The body looks at nothing but the clock and the log, and `work` is what it does. -/
def Reads (body : Transaction → StoreM (α × Transaction))
    (work : Moment → List LogEntry → Transaction → Except Failure (α × Transaction)) : Prop :=
  ∀ (s : Store) (tx : Transaction), s.backing = .memory →
    body tx s = (work s.clock s.entries tx, s)

/-- A transaction of one client, as one step. -/
theorem transaction_apply {body : Transaction → StoreM (α × Transaction)}
    {work : Moment → List LogEntry → Transaction → Except Failure (α × Transaction)}
    (hbody : Reads body work) (key : Key) (s : Store) :
    transaction key body s = match s.backing with
      | .unreachable seconds => (.error (.storage (.unavailable seconds)), s)
      | .memory =>
        if s.isBusy key then
          (.error (.storage (.lockTimeout key.1 key.2 (s.lockOf key).2.timeout)), s.timedOut key)
        else
          match s.row? key with
          | none => (.error (.sequenceNotFound key.1 key.2), (s.lockOf key).2)
          | some row =>
            match work s.clock s.entries (.start row) with
            | .error e => (.error e, (s.lockOf key).2)
            | .ok (a, tx) =>
              match (s.lockOf key).2.committed tx with
              | .error e => (.error e, (s.lockOf key).2)
              | .ok s' => (.ok (a, s.closed tx), s') := by
  unfold transaction
  rw [locked_apply]
  cases hb : s.backing with
  | unreachable seconds => rfl
  | memory =>
    by_cases hbusy : s.isBusy key
    · simp only [hbusy, if_true]
    · have hmem : (s.entered key).backing = .memory := by rw [entered_backing, hb]
      simp only [hbusy, Bool.false_eq_true, if_false, bind_apply, require_memory hmem,
        entered_row?]
      cases hrow : s.row? key with
      | none => simp only [entered_release]
      | some row =>
        -- Taking the lock changes neither clock nor log, so the work comes to the same.
        simp only [hbody _ _ hmem, entered_clock, entered_entries]
        rcases work s.clock s.entries (.start row) with e | ⟨a, tx⟩
        · simp only [entered_release]
        -- The commit does the same with the lock held, and then the lock is given back.
        · have hcommit : (s.entered key).committed tx =
              ((s.lockOf key).2.committed tx).map (·.hold (s.lockOf key).1) :=
            committed_hold _ _ _
          have hclosed : (s.entered key).closed tx = s.closed tx := by
            unfold closed
            rw [show (s.entered key).nextEntryId = s.nextEntryId from lockOf_nextEntryId s key]
          simp only [commit_apply, hclosed, hcommit]
          cases (s.lockOf key).2.committed tx with
          | error e => simp only [Except.map, entered_release]
          | ok s' => simp only [Except.map, pure_apply, release_hold]

/-- A transaction fails and leaves the records, or its work was done on the row that is there,
    and was committed. -/
theorem transaction_cases {body : Transaction → StoreM (α × Transaction)}
    {work : Moment → List LogEntry → Transaction → Except Failure (α × Transaction)}
    (hbody : Reads body work) (key : Key) (s : Store) :
    (∃ failure, (transaction key body s).1 = .error failure ∧
      SameRecords s (transaction key body s).2) ∨
    ∃ row a tx s', s.row? key = some row ∧ work s.clock s.entries (.start row) = .ok (a, tx) ∧
      (s.lockOf key).2.committed tx = .ok s' ∧
      transaction key body s = (.ok (a, s.closed tx), s') := by
  rw [transaction_apply hbody]
  cases s.backing with
  | unreachable seconds => exact .inl ⟨_, rfl, .refl s⟩
  | memory =>
    by_cases hbusy : s.isBusy key
    · simp only [hbusy, if_true]
      exact .inl ⟨_, rfl, sameRecords_timedOut s key⟩
    · simp only [hbusy, Bool.false_eq_true, if_false]
      cases s.row? key with
      | none => exact .inl ⟨_, rfl, sameRecords_lockOf s key⟩
      | some row =>
        dsimp only
        rcases hwork : work s.clock s.entries (.start row) with e | ⟨a, tx⟩
        · exact .inl ⟨e, rfl, sameRecords_lockOf s key⟩
        · dsimp only
          cases hcommit : (s.lockOf key).2.committed tx with
          | error e => exact .inl ⟨e, rfl, sameRecords_lockOf s key⟩
          | ok s' => exact .inr ⟨row, a, tx, s', rfl, hwork, hcommit, rfl⟩

/-- A transaction whose work succeeds is done when the lock is free and the row there. -/
theorem transaction_eq_ok {body : Transaction → StoreM (α × Transaction)}
    {work : Moment → List LogEntry → Transaction → Except Failure (α × Transaction)}
    (hbody : Reads body work) {key : Key} {s : Store} {row : Sequence} {a : α} {tx : Transaction}
    (hmemory : s.backing = .memory) (hfree : s.isBusy key = false) (hrow : s.row? key = some row)
    (hwork : work s.clock s.entries (.start row) = .ok (a, tx)) (hopened : tx.opened = row)
    (hkey : row.key = key) : ∃ tx', (transaction key body s).1 = .ok (a, tx') := by
  have hstored : (s.lockOf key).2.row? tx.opened.key = some tx.opened := by
    rw [lockOf_row?, hopened, hkey]
    exact hrow
  obtain ⟨s', hcommit⟩ := committed_of_row? tx hstored
  rw [transaction_apply hbody, hmemory]
  simp only [hfree, Bool.false_eq_true, if_false, hrow, hwork, hcommit]
  exact ⟨_, rfl⟩

end Store

end SerialNumbers
