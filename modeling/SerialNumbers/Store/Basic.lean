/-
  SerialNumbers.Store.Basic

  The store: the rows of all sequences, the log of all actions, and a lock for
  every sequence.  A lock is looked up by the key of its sequence, or made; it
  is held by one client at a time, and whoever finds it held waits until a
  timeout.  Each step below is atomic.

  A store may also stand behind a connection; when none can be had every step
  that needs one fails.
-/
import SerialNumbers.Journal
import SerialNumbers.LogEntry

namespace SerialNumbers

open Time

/-- Where a store keeps its rows. -/
inductive Backing where
  | memory
  /-- Behind connections that cannot be had; waiting for one ends after the given time. -/
  | unreachable (seconds : String)
deriving Repr, DecidableEq

def Backing.name : Backing → String
  | memory => "memory"
  | unreachable _ => "postgres"

structure Store where
  backing : Backing
  /-- How long a client waits for a lock, in milliseconds. -/
  timeout : Int
  /-- The time of changes that bring no time of their own. -/
  clock : Moment
  rows : Table Key Sequence
  nextId : Int
  /-- The log, oldest entry first. -/
  entries : List LogEntry
  nextEntryId : Int
  /-- The lock of each key that was asked for. -/
  locks : Table Key Nat
  nextLock : Nat
  /-- The locks that are held. -/
  held : List Nat
  /-- Notes, newest first. -/
  notes : List Note
deriving Repr

namespace Store

/-- An empty store. -/
def new (backing : Backing) (timeout : Int) (clock : Moment) : Store :=
  { backing, timeout, clock, rows := .empty, nextId := 1, entries := [], nextEntryId := 1
    locks := .empty, nextLock := 0, held := [], notes := [] }

/-! ## Atomic steps -/

def row? (s : Store) (key : Key) : Option Sequence :=
  s.rows.get? key

/-- The lock of a key, made if there is none. -/
def lockOf (s : Store) (key : Key) : Nat × Store :=
  match s.locks.get? key with
  | some lock => (lock, s)
  | none =>
    (s.nextLock, { s with locks := s.locks.insert key s.nextLock, nextLock := s.nextLock + 1 })

def isHeld (s : Store) (lock : Nat) : Bool :=
  s.held.contains lock

def hold (s : Store) (lock : Nat) : Store :=
  { s with held := lock :: s.held }

def release (s : Store) (lock : Nat) : Store :=
  { s with held := s.held.erase lock }

/-- Puts a new sequence in a free place. -/
def insertRow (s : Store) (row : Sequence) : Except Failure (Sequence × Store) :=
  if (s.row? row.key).isSome then .error (.sequenceExists row.tenant row.name)
  else
    let stored := { row with id := some s.nextId }
    .ok (stored, { s with rows := s.rows.insert row.key stored, nextId := s.nextId + 1 })

/-- Replaces a row that is still at the version it was read at. -/
def replaceRow (s : Store) (opened updated : Sequence) : Except Failure Store :=
  match s.row? opened.key with
  | none => .error (.storage (.changedWhileLocked opened.name))
  | some stored =>
    if stored.version == opened.version then
      .ok { s with rows := s.rows.insert opened.key updated }
    else .error (.storage (.changedWhileLocked opened.name))

/-- Takes out a row together with the lock of its key. -/
def removeRow (s : Store) (key : Key) : Store :=
  { s with rows := s.rows.erase key, locks := s.locks.erase key }

/-- Adds an entry at the end of the log. -/
def append (s : Store) (entry : LogEntry) : LogEntry × Store :=
  let stored := { entry with id := some s.nextEntryId }
  (stored, { s with entries := s.entries ++ [stored], nextEntryId := s.nextEntryId + 1 })

/-! ### What the steps do to the rows and the log -/

/-- A new sequence takes its own place and no other. -/
theorem row?_insertRow {s s' : Store} {row stored : Sequence}
    (h : s.insertRow row = .ok (stored, s')) (key : Key) :
    s'.row? key = if key == row.key then some stored else s.row? key := by
  unfold insertRow at h
  split at h
  · simp at h
  · simp only [Except.ok.injEq, Prod.mk.injEq] at h
    obtain ⟨rfl, rfl⟩ := h
    simp [row?, Table.get?_insert]

/-- A replaced row is the new one in its place, and no other row changes. -/
theorem row?_replaceRow {s s' : Store} {opened updated : Sequence}
    (h : s.replaceRow opened updated = .ok s') (key : Key) :
    s'.row? key = if key == opened.key then some updated else s.row? key := by
  unfold replaceRow at h
  split at h
  · simp at h
  · split at h
    · simp only [Except.ok.injEq] at h
      subst h
      simp [row?, Table.get?_insert]
    · simp at h

theorem row?_removeRow (s : Store) (key key' : Key) :
    (s.removeRow key).row? key' = if key' == key then none else s.row? key' := by
  simp [row?, removeRow, Table.get?_erase]

end Store

/-! ## Doing things with a store -/

/-- Something that is done with a store; what was done before a failure stays done. -/
abbrev StoreM (α : Type) := ExceptT Failure (StateM Store) α

namespace StoreM

/-- A step that cannot fail. -/
def step {α : Type} (f : Store → α × Store) : StoreM α :=
  ExceptT.lift (modifyGet f)

/-- A step that leaves the store as it is when it fails. -/
def attempt {α : Type} (f : Store → Except Failure (α × Store)) : StoreM α := do
  match f (← get) with
  | .ok (a, s) => set s; return a
  | .error e => throw e

/-- A result that does not depend on the store. -/
def ofExcept {α : Type} (x : Except Failure α) : StoreM α :=
  ExceptT.mk (pure x)

/-- Does something and then, whether that failed or not, a closing step. -/
def closing {α : Type} (act : StoreM α) (close : Store → Store) : StoreM α :=
  fun s =>
    let (result, s) := act s
    (result, close s)

/-- The outcome of an action as a value. -/
def outcome {α : Type} (act : StoreM α) : StoreM (Except Failure α) :=
  fun s =>
    let (result, s) := act s
    (.ok result, s)

end StoreM

namespace Store

/-- Leaves a note. -/
def note (level : Level) (part message : String) (fields : List (String × Value)) :
    StoreM Unit :=
  modify fun s => { s with notes := ⟨level, part, message, fields⟩ :: s.notes }

/-- The time that is given, or else the time of the clock. -/
def timeOr (now : Option Moment) : StoreM Moment := do
  return now.getD (← get).clock

/-- Has a connection to where the rows are. -/
def connect : StoreM Unit := do
  match (← get).backing with
  | .memory => return ()
  | .unreachable seconds => throw (.storage (.unavailable seconds))

/-! ## Locking -/

/-- Takes the lock of a key; a lock that is held is waited for in vain. -/
def lock (key : Key) : StoreM Nat := do
  connect
  let lock ← StoreM.step (·.lockOf key)
  let s ← get
  if s.isHeld lock then
    note .warning Note.storePart "Sequence lock timeout"
      (Note.sequenceFields key.1 key.2 ++ [("timeout_ms", .whole s.timeout)])
    throw (.storage (.lockTimeout key.1 key.2 s.timeout))
  set (s.hold lock)
  return lock

/-- Does something while the lock of a key is held. -/
def locked {α : Type} (key : Key) (act : StoreM α) : StoreM α := do
  let lock ← lock key
  StoreM.closing act (·.release lock)

/-! ## Rows -/

def find (key : Key) : StoreM (Option Sequence) := do
  connect
  return (← get).row? key

/-- The row of a key, which must be there. -/
def require (key : Key) : StoreM Sequence := do
  match ← find key with
  | some row => return row
  | none => throw (.sequenceNotFound key.1 key.2)

def findById (id : Int) : StoreM (Option Sequence) := do
  connect
  return (← get).rows.values.find? (·.id == some id)

/-- All sequences, by tenant and then by name. -/
def sequences (s : Store) : List Sequence :=
  s.rows.values.mergeSort fun a b =>
    decide (a.tenant < b.tenant) || (a.tenant == b.tenant && !(b.name < a.name))

/-- The sequences of a tenant in the order of their names. -/
def ofTenant (tenant : String) : StoreM (List Sequence) := do
  connect
  return (← get).sequences.filter (·.tenant == tenant)

def create (row : Sequence) : StoreM Sequence := do
  connect
  let stored ← StoreM.attempt (·.insertRow row)
  note .info Note.storePart "Sequence created"
    (Note.sequenceFields stored.tenant stored.name ++
      [("sequence_id", Sequence.wholeOrNone stored.id)])
  return stored

/-- Replaces a row that was read under its lock. -/
def replace (opened updated : Sequence) : StoreM Sequence := do
  StoreM.attempt fun s => (s.replaceRow opened updated).map ((), ·)
  return updated

/-- Changes fields of the configuration of a row. -/
def update (key : Key) (expected : Option Int) (changes : List (String × Value)) :
    StoreM Sequence :=
  locked key do
    let current ← require key
    match expected with
    | some version =>
      if current.version != version then
        throw (.storage (.versionMismatch key.2 current.version version))
    | none => pure ()
    let updated ← StoreM.ofExcept (current.changed changes (← get).clock)
    replace current updated

/-- Takes a sequence out of the store; its entries stay in the log. -/
def delete (key : Key) : StoreM Bool := do
  let removed ← locked key (StoreM.step fun s => ((s.row? key).isSome, s.removeRow key))
  if removed then
    note .info Note.storePart "Sequence deleted" (Note.sequenceFields key.1 key.2)
  return removed

/-- Adds an entry to the log. -/
def appendLog (entry : LogEntry) : StoreM LogEntry := do
  connect
  StoreM.step (·.append entry)

end Store

end SerialNumbers
