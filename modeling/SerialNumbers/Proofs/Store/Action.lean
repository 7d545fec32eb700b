/-
  SerialNumbers.Proofs.Store.Action

  What an action does to a store.  An action is a function from the store it
  starts with to its outcome and the store it leaves, so every building block
  has one equation; those of the lock say that an action under a lock gives the
  lock back however it ends.  `SameRecords` is what a failed action may claim:
  rows, log, both counters and the held locks are as they were.
-/
import SerialNumbers.Store.Query
import SerialNumbers.Store.Transaction

namespace SerialNumbers

open Time

variable {α β : Type}

/-! ## Results that may fail -/

/-- A chain of two steps succeeds when both do. -/
theorem Except.bind_eq_ok {ε : Type} {x : Except ε α} {f : α → Except ε β} {b : β} :
    (x >>= f) = .ok b ↔ ∃ a, x = .ok a ∧ f a = .ok b := by
  cases x with
  | error e => exact ⟨nofun, fun ⟨_, h, _⟩ => nomatch h⟩
  | ok a =>
    constructor
    · intro h
      exact ⟨a, rfl, h⟩
    · rintro ⟨_, ha, h⟩
      cases ha
      exact h

/-- A chain of two steps fails where its first step does, or else its second. -/
theorem Except.bind_eq_error {ε : Type} {x : Except ε α} {f : α → Except ε β} {e : ε} :
    (x >>= f) = .error e ↔ x = .error e ∨ ∃ a, x = .ok a ∧ f a = .error e := by
  cases x with
  | error e' =>
    constructor
    · intro h
      cases h
      exact .inl rfl
    · rintro (h | ⟨_, h, -⟩)
      · cases h
        rfl
      · cases h
  | ok a =>
    constructor
    · intro h
      exact .inr ⟨a, rfl, h⟩
    · rintro (h | ⟨_, ha, h⟩)
      · cases h
      · cases ha
        exact h

theorem Except.map_eq_ok {ε : Type} {x : Except ε α} {g : α → β} {b : β} :
    g <$> x = .ok b ↔ ∃ a, x = .ok a ∧ g a = b := by
  rw [map_eq_pure_bind, bind_eq_ok]
  exact exists_congr fun a => and_congr_right fun _ => Except.ok.injEq (g a) b ▸ Iff.rfl

theorem Except.map_eq_error {ε : Type} {x : Except ε α} {g : α → β} {e : ε} :
    g <$> x = .error e ↔ x = .error e := by
  rw [map_eq_pure_bind, bind_eq_error]
  constructor
  · rintro (h | ⟨a, -, h⟩)
    · exact h
    · cases h
  · exact .inl

/-- What does not fail has a value. -/
theorem Except.exists_ok {ε : Type} {x : Except ε α} (h : ∀ e, x ≠ .error e) :
    ∃ a, x = .ok a := by
  cases x with
  | error e => exact (h e rfl).elim
  | ok a => exact ⟨a, rfl⟩

/-- Failing once is failing the whole chain. -/
theorem Except.error_bind {ε : Type} (e : ε) (f : α → Except ε β) :
    ((.error e : Except ε α) >>= f) = .error e := rfl

theorem Except.ok_bind {ε : Type} (a : α) (f : α → Except ε β) :
    ((.ok a : Except ε α) >>= f) = f a := rfl

/-- Two results that are made the same fail in the same way, or both come to something. -/
theorem Except.cases_of_map_eq {ε γ : Type} {x : Except ε α} {y : Except ε β} {f : α → γ}
    {g : β → γ} (h : x.map f = y.map g) :
    (∃ e, x = .error e ∧ y = .error e) ∨ ∃ a b, x = .ok a ∧ y = .ok b ∧ f a = g b := by
  cases x with
  | error e =>
    cases y with
    | error e' => exact .inl ⟨e, rfl, congrArg Except.error (Except.error.inj h).symm⟩
    | ok b => cases h
  | ok a =>
    cases y with
    | error e' => cases h
    | ok b => exact .inr ⟨a, b, rfl, rfl, Except.ok.inj h⟩

theorem Except.map_inj {ε : Type} {f : α → β} (hf : ∀ {a b}, f a = f b → a = b)
    {x y : Except ε α} (h : x.map f = y.map f) : x = y := by
  rcases Except.cases_of_map_eq h with ⟨e, rfl, rfl⟩ | ⟨a, b, rfl, rfl, hab⟩
  · rfl
  · rw [hf hab]

/-- Two chains come to the same if their first steps do, and then what follows. -/
theorem Except.map_bind_of_map {ε γ δ : Type} {x : Except ε α} {f : α → β} {y : Except ε β}
    {k : α → Except ε γ} {g : γ → δ} {l : β → Except ε δ} (hx : x.map f = y)
    (hk : ∀ a, x = .ok a → (k a).map g = l (f a)) : (x >>= k).map g = y >>= l := by
  subst hx
  cases x with
  | error e => rfl
  | ok a => exact hk a rfl

theorem Except.eq_ok_of_toOption {ε : Type} {x : Except ε α} {a : α}
    (h : x.toOption = some a) : x = .ok a := by
  cases x with
  | error e => cases h
  | ok b => exact congrArg Except.ok (Option.some.inj h)

namespace StoreM

/-! ## Equations of the building blocks -/

theorem pure_apply (a : α) (s : Store) : (pure a : StoreM α) s = (.ok a, s) := rfl

theorem throw_apply (e : Failure) (s : Store) : (throw e : StoreM α) s = (.error e, s) := rfl

theorem get_apply (s : Store) : (get : StoreM Store) s = (.ok s, s) := rfl

theorem set_apply (s s' : Store) : (set s' : StoreM PUnit) s = (.ok (), s') := rfl

theorem bind_apply (x : StoreM α) (f : α → StoreM β) (s : Store) :
    (x >>= f) s = match x s with
      | (.ok a, s') => f a s'
      | (.error e, s') => (.error e, s') := by
  show (ExceptT.bind x f : StoreM β) s = _
  -- By the outcome of the first action.
  simp only [ExceptT.bind, ExceptT.mk]
  rcases h : x s with ⟨r, s'⟩
  cases r with
  | error e =>
    simp only [bind, StateT.bind, h, ExceptT.bindCont]
    rfl
  | ok a => simp only [bind, StateT.bind, h, ExceptT.bindCont]

theorem map_apply (g : α → β) (x : StoreM α) (s : Store) :
    (g <$> x) s = ((x s).1.map g, (x s).2) := by
  rw [map_eq_pure_bind, bind_apply]
  rcases x s with ⟨_ | _, _⟩ <;> rfl

theorem map_of_ok {g : α → β} {x : StoreM α} {s : Store} {a : α} (h : (x s).1 = .ok a) :
    (g <$> x) s = (.ok (g a), (x s).2) := by
  rw [map_apply, h]
  rfl

theorem map_of_error {g : α → β} {x : StoreM α} {s : Store} {e : Failure}
    (h : (x s).1 = .error e) : (g <$> x) s = (.error e, (x s).2) := by
  rw [map_apply, h]
  rfl

theorem step_apply (f : Store → α × Store) (s : Store) :
    step f s = (.ok (f s).1, (f s).2) := rfl

theorem ofExcept_apply (x : Except Failure α) (s : Store) : ofExcept x s = (x, s) := rfl

theorem closing_apply (act : StoreM α) (close : Store → Store) (s : Store) :
    closing act close s = ((act s).1, close (act s).2) := rfl

theorem attempt_apply (f : Store → Except Failure (α × Store)) (s : Store) :
    attempt f s = match f s with
      | .ok (a, s') => (.ok a, s')
      | .error e => (.error e, s) := by
  unfold attempt
  rw [bind_apply]
  simp only [get_apply]
  rcases f s with e | ⟨a, s'⟩ <;> rfl

end StoreM

namespace Store

open StoreM

/-! ## Stores that agree -/

/-- The store without its notes. -/
def quiet (s : Store) : Store := { s with notes := [] }

/-- Rows, log, counters and held locks are those of another store. -/
structure SameRecords (s s' : Store) : Prop where
  rows : s'.rows = s.rows
  entries : s'.entries = s.entries
  nextId : s'.nextId = s.nextId
  nextEntryId : s'.nextEntryId = s.nextEntryId
  held : s'.held = s.held
  backing : s'.backing = s.backing

theorem SameRecords.refl (s : Store) : SameRecords s s := ⟨rfl, rfl, rfl, rfl, rfl, rfl⟩

theorem SameRecords.trans {s t u : Store} (h : SameRecords s t) (h' : SameRecords t u) :
    SameRecords s u :=
  ⟨h'.rows.trans h.rows, h'.entries.trans h.entries, h'.nextId.trans h.nextId,
    h'.nextEntryId.trans h.nextEntryId, h'.held.trans h.held, h'.backing.trans h.backing⟩

theorem SameRecords.row? {s s' : Store} (h : SameRecords s s') (key : Key) :
    s'.row? key = s.row? key := congrArg (Table.get? · key) h.rows

/-- Notes are no records. -/
theorem sameRecords_of_quiet {s t : Store} (hq : t.quiet = s.quiet) : SameRecords s t := by
  have hrows : t.quiet.rows = s.quiet.rows := by rw [hq]
  have hentries : t.quiet.entries = s.quiet.entries := by rw [hq]
  have hnext : t.quiet.nextId = s.quiet.nextId := by rw [hq]
  have hnextEntry : t.quiet.nextEntryId = s.quiet.nextEntryId := by rw [hq]
  have hheld : t.quiet.held = s.quiet.held := by rw [hq]
  have hbacking : t.quiet.backing = s.quiet.backing := by rw [hq]
  exact ⟨hrows, hentries, hnext, hnextEntry, hheld, hbacking⟩

/-! ## Small actions -/

theorem note_apply (level : Level) (part message : String) (fields : List (String × Value))
    (s : Store) : note level part message fields s =
      (.ok (), { s with notes := ⟨level, part, message, fields⟩ :: s.notes }) := rfl

theorem timeOr_apply (now : Option Moment) (s : Store) :
    timeOr now s = (.ok (now.getD s.clock), s) := rfl

theorem connect_memory {s : Store} (h : s.backing = .memory) : connect s = (.ok (), s) := by
  unfold connect
  rw [bind_apply, get_apply]
  simp only [h, pure_apply]

theorem connect_unreachable {s : Store} {seconds : String} (h : s.backing = .unreachable seconds) :
    connect s = (.error (.storage (.unavailable seconds)), s) := by
  unfold connect
  rw [bind_apply, get_apply]
  simp only [h, throw_apply]

theorem require_memory {s : Store} (h : s.backing = .memory) (key : Key) :
    require key s = match s.row? key with
      | some row => (.ok row, s)
      | none => (.error (.sequenceNotFound key.1 key.2), s) := by
  unfold require find
  simp only [bind_apply, connect_memory h, get_apply, pure_apply]
  cases s.row? key <;> rfl

/-! ## Locks -/

@[simp] theorem lockOf_rows (s : Store) (key : Key) : (s.lockOf key).2.rows = s.rows := by
  unfold lockOf
  split <;> rfl

@[simp] theorem lockOf_entries (s : Store) (key : Key) :
    (s.lockOf key).2.entries = s.entries := by
  unfold lockOf
  split <;> rfl

@[simp] theorem lockOf_nextId (s : Store) (key : Key) : (s.lockOf key).2.nextId = s.nextId := by
  unfold lockOf
  split <;> rfl

@[simp] theorem lockOf_nextEntryId (s : Store) (key : Key) :
    (s.lockOf key).2.nextEntryId = s.nextEntryId := by
  unfold lockOf
  split <;> rfl

@[simp] theorem lockOf_held (s : Store) (key : Key) : (s.lockOf key).2.held = s.held := by
  unfold lockOf
  split <;> rfl

@[simp] theorem lockOf_backing (s : Store) (key : Key) :
    (s.lockOf key).2.backing = s.backing := by
  unfold lockOf
  split <;> rfl

@[simp] theorem lockOf_clock (s : Store) (key : Key) : (s.lockOf key).2.clock = s.clock := by
  unfold lockOf
  split <;> rfl

/-- Looking up a lock changes no record. -/
theorem sameRecords_lockOf (s : Store) (key : Key) : SameRecords s (s.lockOf key).2 :=
  ⟨lockOf_rows s key, lockOf_entries s key, lockOf_nextId s key, lockOf_nextEntryId s key,
    lockOf_held s key, lockOf_backing s key⟩

@[simp] theorem lockOf_row? (s : Store) (key k : Key) : (s.lockOf key).2.row? k = s.row? k :=
  (sameRecords_lockOf s key).row? k

/-- The lock of a key is held by somebody. -/
def isBusy (s : Store) (key : Key) : Bool :=
  (s.lockOf key).2.isHeld (s.lockOf key).1

theorem isBusy_of_free {s : Store} (h : s.held = []) (key : Key) : s.isBusy key = false := by
  unfold isBusy isHeld
  rw [lockOf_held, h]
  rfl

/-- The note on a lock that was waited for in vain. -/
def timedOut (s : Store) (key : Key) : Store :=
  { (s.lockOf key).2 with notes :=
      ⟨.warning, Note.storePart, "Sequence lock timeout", Note.sequenceFields key.1 key.2 ++
        [("timeout_ms", .whole (s.lockOf key).2.timeout)]⟩ :: (s.lockOf key).2.notes }

theorem sameRecords_timedOut (s : Store) (key : Key) : SameRecords s (s.timedOut key) :=
  (sameRecords_lockOf s key).trans ⟨rfl, rfl, rfl, rfl, rfl, rfl⟩

/-- The store in which the lock of a key is held. -/
def entered (s : Store) (key : Key) : Store :=
  (s.lockOf key).2.hold (s.lockOf key).1

/-- An action under a lock: it is not begun when there is no connection or the lock is
    held, and else it ends with the lock given back. -/
theorem locked_apply (key : Key) (act : StoreM α) (s : Store) :
    locked key act s = match s.backing with
      | .unreachable seconds => (.error (.storage (.unavailable seconds)), s)
      | .memory =>
        if s.isBusy key then
          (.error (.storage (.lockTimeout key.1 key.2 (s.lockOf key).2.timeout)), s.timedOut key)
        else
          ((act (s.entered key)).1, (act (s.entered key)).2.release (s.lockOf key).1) := by
  unfold locked lock
  cases hb : s.backing with
  | unreachable seconds => simp only [bind_apply, connect_unreachable hb]
  | memory =>
    simp only [bind_apply, connect_memory hb, step_apply, get_apply]
    -- The lock is the one of the table, so it is held just when the key is busy.
    by_cases h : s.isBusy key
    · have hheld : (s.lockOf key).2.isHeld (s.lockOf key).1 = true := h
      simp only [hheld, if_true, h, bind_apply, note_apply, throw_apply]
      rfl
    · have hheld : (s.lockOf key).2.isHeld (s.lockOf key).1 = false := by
        simpa [isBusy] using h
      simp only [hheld, h, Bool.false_eq_true, if_false, bind_apply, set_apply, pure_apply,
        closing_apply]
      rfl

/-- What is made of the outcome can be made under the lock. -/
theorem map_locked (g : α → β) (key : Key) (act : StoreM α) :
    g <$> locked key act = locked key (g <$> act) := by
  funext s
  rw [map_apply, locked_apply, locked_apply]
  cases s.backing with
  | unreachable seconds => rfl
  | memory =>
    by_cases h : s.isBusy key
    · simp only [h, if_true]
      rfl
    · simp only [h, Bool.false_eq_true, if_false, map_apply]

@[simp] theorem release_hold (s : Store) (lock : Nat) : (s.hold lock).release lock = s := by
  unfold hold release
  rw [List.erase_cons_head]

theorem entered_release (s : Store) (key : Key) :
    (s.entered key).release (s.lockOf key).1 = (s.lockOf key).2 :=
  release_hold _ _

/-- Replacing a row does not look at the locks. -/
theorem replaceRow_hold (s : Store) (lock : Nat) (opened updated : Sequence) :
    (s.hold lock).replaceRow opened updated = (s.replaceRow opened updated).map (·.hold lock) := by
  unfold replaceRow
  have hrow : (s.hold lock).row? opened.key = s.row? opened.key := rfl
  rw [hrow]
  cases s.row? opened.key with
  | none => rfl
  | some stored =>
    dsimp only
    cases stored.version == opened.version <;> rfl

@[simp] theorem entered_entries (s : Store) (key : Key) : (s.entered key).entries = s.entries :=
  lockOf_entries s key

@[simp] theorem entered_clock (s : Store) (key : Key) : (s.entered key).clock = s.clock :=
  lockOf_clock s key

@[simp] theorem entered_backing (s : Store) (key : Key) : (s.entered key).backing = s.backing :=
  lockOf_backing s key

@[simp] theorem entered_row? (s : Store) (key k : Key) : (s.entered key).row? k = s.row? k :=
  lockOf_row? s key k

end Store

end SerialNumbers
