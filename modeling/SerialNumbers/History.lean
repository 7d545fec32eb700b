/-
  SerialNumbers.History

  The log as its readers ask for it.
-/
import SerialNumbers.Store.Query

namespace SerialNumbers.History

/-- The entries that pass the filters; an action must be one that there is. -/
def ofFilter (f : LogFilter) : StoreM (List LogEntry) := do
  match f.action with
  | some wanted => let _ ← StoreM.ofExcept (Action.ofValue wanted)
  | none => pure ()
  Store.findLogs f

/-- The entries of a sequence. -/
def ofSequence (key : Key) (limit : Option Int) : StoreM (List LogEntry) := do
  let row ← Store.require key
  Store.findLogs { sequenceId := row.id, limit }

/-- The entry of the number that was issued last. -/
def lastGenerated (key : Key) : StoreM (Option LogEntry) := do
  let row ← Store.require key
  let found ← Store.findLogs
    { sequenceId := row.id, action := some (.text Action.generated.name), limit := some 1 }
  return found.head?

/-- The entries of a number. -/
def ofNumber (number : String) : StoreM (List LogEntry) :=
  Store.findLogs { number := some number, action := some (.text Action.generated.name) }

end SerialNumbers.History
