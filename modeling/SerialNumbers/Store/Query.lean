/-
  SerialNumbers.Store.Query

  Questions to the log.  Entries that pass every filter come newest first; of
  two entries of one moment the one with the greater number is the newer.
-/
import SerialNumbers.Store.Basic

namespace SerialNumbers

open Time

/-- The action that a value names. -/
def Action.ofValue (v : Value) : Except Failure Action :=
  let named := match v with
    | .text s => Action.named? s
    | _ => none
  match named with
  | some action => .ok action
  | none => do .error (.value (.action (← v.literal)))

/-- The greatest number of entries that is answered when no other is given. -/
def LogFilter.defaultLimit : Int := 100

/-- What entries are asked for. -/
structure LogFilter where
  sequenceId : Option Int := none
  /-- The name of an action. -/
  action : Option Value := none
  /-- Who asked for the action, as it is shown. -/
  causer : Option Value := none
  number : Option String := none
  counter : Option Int := none
  since : Option Moment := none
  upTo : Option Moment := none
  limit : Option Int := some LogFilter.defaultLimit

namespace LogFilter

/-- Compares two moments, of which both or none know their zone. -/
def isBefore (a b : Moment) : Except Failure Bool :=
  match a.order? b with
  | some order => .ok (order == .lt)
  | none => .error .incomparable

/-- An optional test; without it all entries pass. -/
def ifGiven {α : Type} (wanted : Option α) (test : α → Bool) : Bool :=
  wanted.all test

def matchesAction (f : LogFilter) (e : LogEntry) : Except Failure Bool :=
  match f.action with
  | none => .ok true
  | some wanted => do return (← Action.ofValue wanted) == e.action

def matchesCauser (f : LogFilter) (e : LogEntry) : Except Failure Bool :=
  match f.causer with
  | none => .ok true
  | some wanted => do return e.causer == some (← wanted.shown)

/-- The entry lies between the two moments. -/
def matchesTime (f : LogFilter) (e : LogEntry) : Except Failure Bool := do
  let early ← match f.since with
    | some since => isBefore e.createdAt since
    | none => pure false
  if early then return false
  match f.upTo with
  | some upTo => return !(← isBefore upTo e.createdAt)
  | none => return true

/-- The entry passes every filter. -/
def accepts (f : LogFilter) (e : LogEntry) : Except Failure Bool := do
  if !ifGiven f.sequenceId (· == e.sequenceId) then return false
  if !(← f.matchesAction e) then return false
  if !(← f.matchesCauser e) then return false
  if !ifGiven f.number (· == e.number) then return false
  if !ifGiven f.counter (· == e.counter) then return false
  f.matchesTime e

/-- One of two entries of a log is at least as new as the other. -/
def isNewer (a b : LogEntry) : Bool :=
  match a.createdAt.order? b.createdAt with
  | some .gt => true
  | some .lt => false
  | _ => b.id.getD 0 ≤ a.id.getD 0

/-- Some entries know their zone and some do not. -/
def isMixed (entries : List LogEntry) : Bool :=
  entries.any (·.createdAt.zone.isSome) && entries.any (·.createdAt.zone.isNone)

/-- The first entries of a list; a negative limit leaves out so many at the end. -/
def firstOf (limit : Option Int) (entries : List LogEntry) : List LogEntry :=
  match limit with
  | none => entries
  | some n =>
    entries.take (if n < 0 then (entries.length + n).toNat else n.toNat)

/-- The entries that are asked for, newest first. -/
def apply (f : LogFilter) (entries : List LogEntry) : Except Failure (List LogEntry) := do
  let found ← entries.filterM f.accepts
  if isMixed found then .error .incomparable
  else return firstOf f.limit (found.mergeSort isNewer)

end LogFilter

namespace Store

def findLogs (f : LogFilter) : StoreM (List LogEntry) := do
  connect
  StoreM.ofExcept (f.apply (← get).entries)

end Store

end SerialNumbers
