/-
  SerialNumbers.Store.Transaction

  Transactions: the exclusive handle on one row.  Changes are made to a copy,
  entries are kept back, and both reach the store together when the transaction
  is committed.
-/
import SerialNumbers.Store.Basic

namespace SerialNumbers

open Time

structure Transaction where
  /-- The row as it was when the transaction opened. -/
  opened : Sequence
  /-- The row as it is to be. -/
  current : Sequence
  pending : List LogEntry
  written : List LogEntry
  committed : Bool
deriving Repr

namespace Transaction

/-- A transaction that has changed nothing. -/
def start (row : Sequence) : Transaction :=
  ⟨row, row, [], [], false⟩

/-- The entries that were written, or those that will be. -/
def logs (tx : Transaction) : List LogEntry :=
  if tx.committed then tx.written else tx.pending

/-- The row was changed; every change counts the version up. -/
def isDirty (tx : Transaction) : Bool :=
  tx.current.version != tx.opened.version

/-! ## Changes -/

/-- Changes the row at a moment. -/
def mutate (tx : Transaction) (now : Moment) (change : Sequence → Sequence) : Transaction :=
  { tx with current :=
    { change tx.current with version := tx.current.version + 1, updatedAt := now } }

def increment (tx : Transaction) (now : Moment) : Transaction :=
  tx.mutate now fun row => { row with current := row.nextValue }

def reset (tx : Transaction) (now : Moment) : Transaction :=
  tx.mutate now fun row => { row with current := 0, lastResetAt := some now }

def override (tx : Transaction) (value : Int) (now : Moment) : Except Failure Transaction :=
  if value < 0 then .error (.value (.negativeCounter value))
  else .ok (tx.mutate now fun row => { row with current := value })

/-- Keeps an entry for the commit; it is about the row of the transaction. -/
def log (tx : Transaction) (entry : LogEntry) : Transaction :=
  { tx with pending := tx.pending ++
    [{ entry with sequenceId := tx.current.id.getD entry.sequenceId }] }

/-- The entry that was kept last. -/
def lastLogged? (tx : Transaction) : Option LogEntry :=
  tx.pending.getLast?

end Transaction

namespace Store

/-! ## Committing -/

/-- Writes entries to the log. -/
def appendAll : List LogEntry → StoreM (List LogEntry)
  | [] => pure []
  | entry :: rest => do
    let stored ← StoreM.step (·.append entry)
    return stored :: (← appendAll rest)

/-- Brings the changes and the entries of a transaction into the store. -/
def commit (tx : Transaction) : StoreM Transaction := do
  if tx.isDirty then
    let _ ← replace tx.opened tx.current
  let written ← if tx.pending.isEmpty then pure tx.written else appendAll tx.pending
  return { tx with written, committed := true }

/-- Does something with the row of a key while its lock is held, and commits. -/
def transaction {α : Type} (key : Key) (body : Transaction → StoreM (α × Transaction)) :
    StoreM (α × Transaction) :=
  locked key do
    let row ← require key
    let (result, tx) ← body (.start row)
    return (result, ← commit tx)

/-! ## Single changes -/

/-- Counts a row up. -/
def increment (key : Key) (now : Option Moment) : StoreM Sequence := do
  let (_, tx) ← transaction key fun tx => do
    return ((), tx.increment (← timeOr now))
  return tx.current

/-- Resets a row and logs it. -/
def reset (key : Key) (reason causer : Value) (now : Option Moment) : StoreM Sequence := do
  let stamp ← timeOr now
  let (_, tx) ← transaction key fun tx => do
    let tx := tx.reset stamp
    let entry ← StoreM.ofExcept (LogEntry.reset tx.current reason causer stamp)
    return ((), tx.log entry)
  return tx.current

/-- Sets the counter of a row and logs it; the guard sees the changed row first. -/
def override (key : Key) (value : Int) (reason causer : Value) (now : Option Moment)
    (check : Sequence → StoreM Unit) : StoreM Sequence := do
  let stamp ← timeOr now
  let (_, tx) ← transaction key fun tx => do
    let tx ← StoreM.ofExcept (tx.override value stamp)
    check tx.current
    let entry ← StoreM.ofExcept
      (LogEntry.about tx.current .overridden "" value [] reason causer stamp)
    return ((), tx.log entry)
  return tx.current

end Store

end SerialNumbers
