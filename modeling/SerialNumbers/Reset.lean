/-
  SerialNumbers.Reset

  When a counter is due to start again: because a period has ended since it was
  last reset or changed, or because it has reached its limit.  Both are decided
  by themselves.
-/
import SerialNumbers.Sequence

namespace SerialNumbers

open Time

/-! ## The state of a counter -/

/-- What the decision rests on: the counter value, when the sequence was last changed, and
    when it was last reset. -/
structure Tally where
  counter : Int
  changedAt : Moment
  lastResetAt : Option Moment
deriving Repr

namespace Tally

/-- Reads a tally; a time of change that is not given is `now`. -/
def ofFields (now : Moment) (f : Fields) : Except Failure Tally :=
  Checked.value <|
    Checked.of Tally.mk
    |>.and (f.get "counter" (.atLeast 0) 0)
    |>.and (f.get "timestamp" .moment now)
    |>.and (f.get "last_reset_at" (.optional .moment) none)

/-- The moment whose period counts: the last reset, or else the last change. -/
def reference (t : Tally) : Moment :=
  t.lastResetAt.getD t.changedAt

/-! ## Decisions -/

/-- The period of the reference has ended. -/
def dueByTime (t : Tally) (period : Period) (zone : Zone) (now : Moment) :
    Except Failure Bool :=
  if period.isTimeBased then do return !(← period.sameSpan zone t.reference now)
  else .ok false

/-- The counter has reached the limit. -/
def dueByCount (t : Tally) (limit : Option Int) : Bool :=
  (limit.map fun limit => decide (limit ≤ t.counter)).getD false

def due (t : Tally) (period : Period) (limit : Option Int) (zone : Zone) (now : Moment) :
    Except Failure Bool := do
  return (← t.dueByTime period zone now) || t.dueByCount limit

/-- The limit as a reason, if it is reached. -/
def countReason (t : Tally) (limit : Option Int) : Except Failure (List String) :=
  if t.dueByCount limit then
    (fun text => ["reset limit " ++ text ++ " reached"]) <$> Number.numeral (limit.getD 0)
  else .ok []

/-- Why a reset is due, if it is. -/
def reason? (t : Tally) (period : Period) (limit : Option Int) (zone : Zone) (now : Moment) :
    Except Failure (Option String) := do
  let byTime ← t.dueByTime period zone now
  let byCount ← t.countReason limit
  let reasons := (if byTime then [period.name ++ " period boundary crossed"] else []) ++ byCount
  return if reasons.isEmpty then none else some ("; ".intercalate reasons)

/-- How far the counter is from the limit. -/
def remainingCount? (t : Tally) (limit : Option Int) : Option Int :=
  limit.map fun limit => max (limit - t.counter) 0

end Tally

/-! ## Sequences -/

/-- What is known about the next reset of a sequence. -/
structure ResetInfo where
  /-- Which of time and count can cause a reset. -/
  kind : String
  period : Period
  limit : Option Int
  remainingCount : Option Int
  nextResetAt : Option Moment
  willResetNext : Bool
  lastResetAt : Option Moment
deriving Repr

/-- What is known about the next reset, by name; moments are written out. -/
def ResetInfo.toFields (i : ResetInfo) : List (String × Value) :=
  let time (m : Option Moment) : Value := m.elim .none fun m => .text m.isoText
  [("type", .text i.kind), ("period", .text i.period.name),
   ("limit", Sequence.wholeOrNone i.limit),
   ("remaining_count", Sequence.wholeOrNone i.remainingCount),
   ("next_reset_at", time i.nextResetAt), ("will_reset_next", .truth i.willResetNext),
   ("last_reset_at", time i.lastResetAt)]

namespace Sequence

def tally (s : Sequence) : Tally :=
  ⟨s.current, s.updatedAt, s.lastResetAt⟩

/-- The next number starts the counter again. -/
def resetDue (s : Sequence) (zone : Zone) (now : Moment) : Except Failure Bool :=
  s.tally.due s.period s.limit zone now

/-- Why the next number starts the counter again, if it does. -/
def resetReason? (s : Sequence) (zone : Zone) (now : Moment) : Except Failure (Option String) :=
  s.tally.reason? s.period s.limit zone now

/-- The word for what can cause a reset. -/
def resetKind (s : Sequence) : String :=
  match s.period.isTimeBased, s.limit.isSome with
  | true, true => "time_and_count"
  | true, false => "time"
  | false, true => "count"
  | false, false => "never"

def resetInfo (s : Sequence) (zone : Zone) (now : Moment) : Except Failure ResetInfo := do
  let nextResetAt ← s.period.next? zone now
  return {
    kind := s.resetKind
    period := s.period
    limit := s.limit
    remainingCount := s.tally.remainingCount? s.limit
    nextResetAt
    willResetNext := ← s.resetDue zone now
    lastResetAt := s.lastResetAt }

end Sequence

end SerialNumbers
