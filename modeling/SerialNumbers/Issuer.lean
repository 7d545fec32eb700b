/-
  SerialNumbers.Issuer

  The issuing of serial numbers.  A number is issued inside one transaction: the
  sequence is reset if that is due, its counter goes up, its pattern is
  evaluated, and the log is written; when anything fails nothing of this
  remains.  A preview works out the next number from the row as it stands.
-/
import SerialNumbers.Pattern.Evaluation
import SerialNumbers.Pattern.Matcher
import SerialNumbers.Pattern.Syntax
import SerialNumbers.Reset
import SerialNumbers.Store.Query
import SerialNumbers.Store.Transaction

namespace SerialNumbers

open Time

/-- What numbers are issued by: the custom variables, and the zone on whose clock periods
    are drawn and dates are written. -/
structure Issuer where
  registry : Registry
  zone : Zone

namespace Issuer

/-! ## Rendering -/

/-- The template of a pattern in which nothing is wrong. -/
def checkedTemplate (i : Issuer) (pattern : String) : Except Failure Template := do
  let found ← i.registry.checkSyntax pattern
  if found.isValid then Template.parse pattern
  else .error (.malformed s!"Invalid pattern '{pattern}'" found.errors)

/-- The number of a sequence for a counter value, neither empty nor too long. -/
def render (i : Issuer) (t : Template) (row : Sequence) (counter : Int) (c : Context)
    (now : Moment) : Except Failure String := do
  let here ← now.inZone i.zone
  let number ← t.evaluate (← Scope.forMoment i.registry c here counter row.padding)
  if number.isEmpty then .error (.evaluation (.emptyNumber row.pattern))
  else if Pattern.maxLength < number.length then
    .error (.evaluation (.longNumber Pattern.maxLength))
  else .ok number

/-- The counter value of the next number. -/
def nextCounter (i : Issuer) (row : Sequence) (now : Moment) : Except Failure Int := do
  return if ← row.resetDue i.zone now then row.step else row.nextValue

/-! ## Creating sequences -/

/-- A sequence to be made; the values are read by the rules for their fields. -/
structure Draft where
  tenant : Value
  name : Value
  pattern : String
  period : Value := .text Period.never.name
  limit : Value := .none
  padding : Value := .whole 5
  step : Value := .whole 1
  metadata : Value := .none

/-- The period that a value names. -/
def periodOf (v : Value) : Except Failure Period :=
  let named := match v with
    | .text s => Period.named? s
    | _ => none
  match named with
  | some period => .ok period
  | none => do .error (.value (.period (← v.literal)))

namespace Draft

/-- The sequence that is made of a draft at a moment. -/
def sequence (d : Draft) (stamp : Moment) : Except Failure Sequence := do
  let period ← periodOf d.period
  Sequence.ofFields stamp (Table.ofList
    [("tenant_id", d.tenant), ("sequence_name", d.name), ("pattern", .text d.pattern),
     ("reset_period", .text period.name), ("reset_limit", d.limit), ("padding", d.padding),
     ("step_size", d.step),
     ("metadata", if d.metadata.isEmptyLike then .record [] else d.metadata),
     ("created_at", .moment stamp), ("updated_at", .moment stamp)])

end Draft

/-- Makes a sequence with a pattern in which nothing is wrong. -/
def create (i : Issuer) (d : Draft) (now : Option Moment) : StoreM Sequence := do
  let _ ← StoreM.ofExcept (i.checkedTemplate d.pattern)
  let stamp ← Store.timeOr now
  Store.create (← StoreM.ofExcept (d.sequence stamp))

/-! ## Issuing -/

/-- The note on a number that was issued. -/
def noteIssued (row : Sequence) (reason : Option String) (number : String) (counter : Int) :
    StoreM Unit := do
  match reason with
  | some reason =>
    Store.note .info Note.issuerPart "Sequence reset before generation"
      (Note.sequenceFields row.tenant row.name ++ [("reason", .text reason)])
  | none => pure ()
  Store.note .info Note.issuerPart "Serial number generated"
    (Note.sequenceFields row.tenant row.name ++
      [("counter", .whole counter), ("serial_number", .text number)])

/-- Resets the row of a transaction if that is due, and logs it. -/
def resetIfDue (i : Issuer) (tx : Transaction) (causer : Value) (now : Moment) :
    Except Failure (Option String × Transaction) := do
  match ← tx.current.resetReason? i.zone now with
  | none => return (none, tx)
  | some reason =>
    let tx := tx.reset now
    let entry ← LogEntry.reset tx.current (.text ("automatic: " ++ reason)) causer now
    return (some reason, tx.log entry)

/-- Takes the next number of the row of a transaction, and logs it. -/
def issueIn (i : Issuer) (t : Template) (tx : Transaction) (c : Context) (causer : Value)
    (now : Moment) : Except Failure (String × Transaction) := do
  let tx := tx.increment now
  let number ← i.render t tx.current tx.current.current c now
  let snapshot ← c.snapshot
  let entry ← LogEntry.about tx.current .generated number tx.current.current snapshot .none
    causer now
  return (number, tx.log entry)

/-- All that is done to a row when a number is issued.  The template was made from the
    caller's pattern, and is made again if the row has another one. -/
def issueStep (i : Issuer) (t : Template) (tx : Transaction) (c : Context) (causer : Value)
    (now : Moment) : Except Failure ((String × Option String) × Transaction) := do
  let t ← if tx.opened.pattern == t.pattern then pure t
    else i.checkedTemplate tx.opened.pattern
  let (reason, tx) ← i.resetIfDue tx causer now
  let (number, tx) ← i.issueIn t tx c causer now
  return ((number, reason), tx)

/-- Issues the next number of a sequence. -/
def generate (i : Issuer) (row : Sequence) (c : Context) (causer : Value)
    (now : Option Moment) : StoreM Issued := do
  let now ← Store.timeOr now
  let t ← StoreM.ofExcept (i.checkedTemplate row.pattern)
  let ((number, reason), tx) ← Store.transaction row.key fun tx =>
    StoreM.ofExcept (i.issueStep t tx c causer now)
  let counter := tx.current.current
  noteIssued tx.opened reason number counter
  return {
    number, counter, issuedAt := now
    metadata :=
      [("sequence_id", Sequence.wholeOrNone tx.current.id),
       ("reset_performed", .truth reason.isSome), ("is_preview", .truth false)] }

/-! ## Looking ahead -/

/-- The row of a sequence as it stands. -/
def currentRow (row : Sequence) : StoreM Sequence :=
  Store.require row.key

/-- The number that a row would give next. -/
def previewRow (i : Issuer) (row : Sequence) (c : Context) (now : Moment) :
    Except Failure String := do
  let t ← i.checkedTemplate row.pattern
  i.render t row (← i.nextCounter row now) c now

/-- The number that would be issued next; nothing changes. -/
def preview (i : Issuer) (row : Sequence) (c : Context) (now : Option Moment) :
    StoreM String := do
  let now ← Store.timeOr now
  StoreM.ofExcept (i.previewRow (← currentRow row) c now)

/-- The next number with what is known about the sequence. -/
structure Outlook where
  number : String
  pattern : String
  current : Int
  next : Int
  reset : ResetInfo
deriving Repr

/-- What is known about the next number, by name. -/
def Outlook.toFields (o : Outlook) : List (String × Value) :=
  [("preview", .text o.number), ("pattern", .text o.pattern),
   ("current_value", .whole o.current), ("next_value", .whole o.next),
   ("is_preview", .truth true), ("reset_info", .record o.reset.toFields)]

def outlook (i : Issuer) (row : Sequence) (c : Context) (now : Option Moment) :
    StoreM Outlook := do
  let now ← Store.timeOr now
  let row ← currentRow row
  StoreM.ofExcept do
    return {
      number := ← i.previewRow row c now
      pattern := row.pattern
      current := row.current
      next := ← i.nextCounter row now
      reset := ← row.resetInfo i.zone now }

/-- The candidate could be a number of the sequence; no candidate is if the pattern is
    malformed. -/
def accepts (i : Issuer) (row : Sequence) (candidate : String) : Except Failure Bool :=
  match i.registry.isMatch row.pattern candidate row.padding with
  | .error (.malformed _ _) => .ok false
  | answer => answer

/-- The next number would start the counter again. -/
def needsReset (i : Issuer) (row : Sequence) (now : Option Moment) : StoreM Bool := do
  let row ← currentRow row
  let now ← Store.timeOr now
  StoreM.ofExcept (row.resetDue i.zone now)

/-- How far the next reset is away, in numbers and in time. -/
def remaining (i : Issuer) (row : Sequence) (now : Option Moment) :
    StoreM (Option Int × Option Duration) := do
  let now ← Store.timeOr now
  let row ← currentRow row
  let time ← StoreM.ofExcept (row.period.remaining? i.zone now)
  return (row.tally.remainingCount? row.limit, time)

/-! ## Changing the counter -/

/-- A reason, or the usual one. -/
def reasonOr (reason : Value) (usual : String) : Value :=
  if reason.isEmptyLike then .text usual else reason

def reset (row : Sequence) (reason causer : Value) (now : Option Moment) : StoreM Sequence := do
  let updated ← Store.reset row.key (reasonOr reason "manual reset") causer
    (some (← Store.timeOr now))
  Store.note .info Note.issuerPart "Sequence reset"
    (Note.sequenceFields updated.tenant updated.name ++ [("causer_id", causer)])
  return updated

/-- What to look for in the log before the counter of a row is used: the number that
    comes next; or, if that cannot be told without a context, its counter value since the
    last reset. -/
def issuedFilter (i : Issuer) (row : Sequence) (now : Moment) : Except Failure LogFilter :=
  let base : LogFilter :=
    { sequenceId := row.id, action := some (.text Action.generated.name), limit := some 1 }
  let candidate := do
    i.render (← Template.parse row.pattern) row row.nextValue .empty now
  match candidate with
  | .ok number => .ok { base with number := some number }
  | .error (.evaluation _) | .error (.malformed _ _) =>
    .ok { base with counter := some row.nextValue, since := row.lastResetAt }
  | .error e => .error e

/-- The number of an entry that stands in the way, or the counter value if the entry has none. -/
def issuedBefore (row : Sequence) (e : LogEntry) : Except Failure String :=
  if e.number.isEmpty then Number.numeral row.nextValue else .ok e.number

/-- Fails if the number after the current one was issued before. -/
def ensureUnissued (i : Issuer) (now : Moment) (row : Sequence) : StoreM Unit := do
  let found ← Store.findLogs (← StoreM.ofExcept (i.issuedFilter row now))
  match found with
  | [] => return ()
  | e :: _ =>
    let number ← StoreM.ofExcept (issuedBefore row e)
    throw (.duplicateNumber row.tenant row.name number)

/-- Sets the counter, unless that would lead to a number that was issued before. -/
def override (i : Issuer) (row : Sequence) (value : Int) (reason causer : Value)
    (now : Option Moment) : StoreM Sequence := do
  let now ← Store.timeOr now
  let updated ← Store.override row.key value reason causer (some now) (i.ensureUnissued now)
  Store.note .warning Note.issuerPart "Sequence counter overridden"
    (Note.sequenceFields updated.tenant updated.name ++
      [("counter", .whole value), ("causer_id", causer)])
  return updated

/-! ## Variables -/

def register (i : Issuer) (v : Variable) : StoreM Issuer := do
  let registry ← StoreM.ofExcept (i.registry.register v)
  Store.note .debug Note.registryPart "Custom variable registered"
    [("variable", .text v.name)]
  return { i with registry }

/-- Takes a variable out; tells whether it was there. -/
def unregister (i : Issuer) (name : String) : StoreM (Bool × Issuer) := do
  let there := i.registry.has name
  if there then
    Store.note .debug Note.registryPart "Custom variable removed"
      [("variable", .text (Text.upper name))]
  return (there, { i with registry := i.registry.remove name })

end Issuer

end SerialNumbers
