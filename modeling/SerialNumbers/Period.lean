/-
  SerialNumbers.Period

  The periods after which a counter starts again.  A period is drawn on the
  clock of a zone: it starts at the midnight of a day, of the first day of a
  month, or of the first day of a year, and ends where the next one starts.
-/
import SerialNumbers.Time.Moment

namespace SerialNumbers

open Time

inductive Period where
  | never
  | daily
  | monthly
  | yearly
deriving Repr, DecidableEq, Inhabited

namespace Period

/-! ## Names -/

def name : Period → String
  | never => "never"
  | daily => "daily"
  | monthly => "monthly"
  | yearly => "yearly"

def all : List Period := [never, daily, monthly, yearly]

def named? (name : String) : Option Period :=
  all.find? (·.name == name)

/-- The period ends at some time. -/
def isTimeBased (p : Period) : Bool :=
  p != never

/-! ## Boundaries -/

/-- The same clock at another reading. -/
def atReading (m : Moment) (reading : Int) : Moment :=
  { m with reading := reading }

/-- The start of the period that a moment lies in, on the moment's own clock. -/
def start? (p : Period) (m : Moment) : Option Moment :=
  let d := m.date
  match p with
  | never => none
  | daily => some (atReading m (Moment.midnight d))
  | monthly => some (atReading m (Moment.midnight ⟨d.year, d.month, 1⟩))
  | yearly => some (atReading m (Moment.midnight ⟨d.year, 1, 1⟩))

/-- The start of the period that a moment lies in, on the clock of a zone. -/
def boundary? (p : Period) (zone : Zone) (m : Moment) : Except Failure (Option Moment) := do
  return p.start? (← m.inZone zone)

/-- Two starts of periods are the same. -/
def sameStart : Option Moment → Option Moment → Bool
  | none, none => true
  | some a, some b => a.sameAs b
  | _, _ => false

/-- Two moments lie in one period. -/
def sameSpan (p : Period) (zone : Zone) (a b : Moment) : Except Failure Bool := do
  let first ← p.boundary? zone a
  let second ← p.boundary? zone b
  return sameStart first second

/-! ## The next period -/

/-- The midnight of the first of a month; the calendar ends with year 9999. -/
def firstOfMonth (year month : Nat) : Except Failure Int :=
  if 9999 < year then .error (.value (.yearRange year))
  else .ok (Moment.midnight ⟨year, month, 1⟩)

/-- The reading at which the next period starts. -/
def nextReading? (p : Period) (m : Moment) : Except Failure (Option Moment) :=
  let d := m.date
  match p with
  | never => .ok none
  | daily =>
    let reading := Moment.midnight d + microsPerDay
    if reading < readingBound then .ok (some ⟨reading, m.zone, false⟩) else .error .timeOverflow
  | monthly => do
    let reading ← if d.month == 12 then firstOfMonth (d.year + 1) 1
      else firstOfMonth d.year (d.month + 1)
    return some (atReading m reading)
  | yearly => do return some (atReading m (← firstOfMonth (d.year + 1) 1))

/-- The start of the period after the one that a moment lies in. -/
def next? (p : Period) (zone : Zone) (m : Moment) : Except Failure (Option Moment) := do
  p.nextReading? (← m.inZone zone)

/-- The time from a moment to the next period as the clock shows it. -/
def remaining? (p : Period) (zone : Zone) (m : Moment) : Except Failure (Option Duration) := do
  let upcoming ← p.next? zone m
  let here ← m.inZone zone
  return upcoming.map fun next => next.reading - here.reading

end Period

end SerialNumbers
