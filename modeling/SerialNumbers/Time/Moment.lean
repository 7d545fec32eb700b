/-
  SerialNumbers.Time.Moment

  Points in time: the reading of a clock, to the microsecond, with the zone of
  the clock if it is known.  Readings run from the start of year 1 to the end
  of year 9999.
-/
import SerialNumbers.Time.Zone
import SerialNumbers.Number.Double
import SerialNumbers.Text.Digit

namespace SerialNumbers.Time

open SerialNumbers.Text SerialNumbers.Number

/-- Microseconds in a second. -/
def microsPerSecond : Int := 1000000

/-- Microseconds in a day. -/
def microsPerDay : Int := 86400 * microsPerSecond

/-- The first reading that is out of range. -/
def readingBound : Int := lastDayNumber * microsPerDay

/-- A reading of a clock, in microseconds since the start of year 1; `late` marks the
    later of two passes over the same reading. -/
structure Moment where
  reading : Int
  zone : Option Zone
  late : Bool := false
deriving Repr, DecidableEq

/-- A length of time in microseconds. -/
abbrev Duration := Int

namespace Moment

/-! ## Fields -/

def dayNumber (m : Moment) : Nat :=
  (m.reading / microsPerDay).toNat + 1

def date (m : Moment) : Date :=
  Date.ofDayNumber m.dayNumber

/-- Microseconds since midnight. -/
def timeOfDay (m : Moment) : Nat :=
  (m.reading % microsPerDay).toNat

def secondOfDay (m : Moment) : Nat := m.timeOfDay / 1000000

def hour (m : Moment) : Nat := m.secondOfDay / 3600

def minute (m : Moment) : Nat := m.secondOfDay / 60 % 60

def second (m : Moment) : Nat := m.secondOfDay % 60

def microsecond (m : Moment) : Nat := m.timeOfDay % 1000000

/-- The start of a date. -/
def midnight (d : Date) : Int :=
  ((d.dayNumber : Int) - 1) * microsPerDay

/-! ## Offsets and instants -/

/-- The whole seconds of the reading. -/
def readingSeconds (m : Moment) : Int :=
  m.reading / microsPerSecond

/-- The offset of the clock from universal time in seconds, if its zone is known. -/
def offset? (m : Moment) : Option Int :=
  m.zone.map fun zone => zone.offsetOf m.late m.readingSeconds

/-- Microseconds of universal time since the start of year 1; a clock without a zone
    counts as showing universal time. -/
def instant (m : Moment) : Int :=
  m.reading - (m.offset?.getD 0) * microsPerSecond

/-- A reading within the range of the calendar. -/
def inRange (reading : Int) : Bool :=
  0 ≤ reading && reading < readingBound

/-- What the clock of a zone shows at the instant of a moment. -/
def shownIn (zone : Zone) (m : Moment) : Except Failure Moment :=
  let instant := m.instant
  let seconds := instant / microsPerSecond
  let reading := instant + zone.offsetAt seconds * microsPerSecond
  if inRange instant && inRange reading then
    .ok ⟨reading, some zone, zone.isLatePass seconds⟩
  else .error .timeOverflow

/-- A moment on the clock of a region is on that very clock; fixed offsets have clocks that show
    the same. -/
def isOn (zone : Zone) (m : Moment) : Bool :=
  match zone with
  | .fixed _ => false
  | .seasonal _ => m.zone == some zone

/-- A moment on the clock of a zone.  A moment that is on this clock stays as it stands, also
    where the clock skips its reading. -/
def inZone (zone : Zone) (m : Moment) : Except Failure Moment :=
  if m.isOn zone then if inRange m.reading then .ok m else .error .timeOverflow
  else m.shownIn zone

/-! ## Comparison -/

/-- Both clocks have a known zone, or neither has. -/
def comparable (a b : Moment) : Bool :=
  a.zone.isSome == b.zone.isSome

/-- The order of two moments: readings of one zone are compared as they stand, others
    by their instants; a clock with a zone and one without cannot be compared. -/
def order? (a b : Moment) : Option Ordering :=
  if !comparable a b then none
  else if a.zone == b.zone then some (compare a.reading b.reading)
  else some (compare a.instant b.instant)

/-- The two moments are the same; without comparison they are different. -/
def sameAs (a b : Moment) : Bool :=
  a.order? b == some .eq

/-! ## Seconds since 1970 -/

/-- The start of 1970. -/
def epochReading : Int := midnight ⟨1970, 1, 1⟩

/-- Seconds since 1970 as a double.  With a zone the exact quotient is rounded once;
    without one the fraction of the second is rounded before it is added. -/
def epochSeconds (m : Moment) : Except Failure Double :=
  match m.zone with
  | some _ => .ok (Double.ofRat (mkRat (m.instant - epochReading) 1000000))
  | none =>
    if !m.late && m.reading < microsPerDay then .error (.value (.yearRange 0))
    else if m.late && readingBound - microsPerDay ≤ m.reading then
      .error (.value (.yearRange 10000))
    else
      let whole := Double.ofInt ((m.reading - epochReading) / microsPerSecond)
      .ok (whole.add (Double.ofRatio false m.microsecond 1000000))

/-! ## Printing -/

def dateText (d : Date) : String :=
  natText 4 d.year ++ "-" ++ natText 2 d.month ++ "-" ++ natText 2 d.day

/-- An offset as hours and minutes, with seconds when there are any. -/
def offsetText (seconds : Int) : String :=
  let n := seconds.natAbs
  (if seconds < 0 then "-" else "+") ++ natText 2 (n / 3600) ++ ":" ++ natText 2 (n / 60 % 60) ++
    (if n % 60 == 0 then "" else ":" ++ natText 2 (n % 60))

/-- The time of day, with six places when the second is not whole. -/
def timeText (m : Moment) : String :=
  natText 2 m.hour ++ ":" ++ natText 2 m.minute ++ ":" ++ natText 2 m.second ++
    (if m.microsecond == 0 then "" else "." ++ natText 6 m.microsecond)

/-- Date, separator, time and offset. -/
def textWith (separator : String) (m : Moment) : String :=
  dateText m.date ++ separator ++ m.timeText ++ (m.offset?.map offsetText).getD ""

/-- The international form with a `T` between date and time. -/
def isoText (m : Moment) : String :=
  m.textWith "T"

/-- Date and time to the second, with the year as short as it is. -/
def plainText (m : Moment) : String :=
  let d := m.date
  toString d.year ++ "-" ++ natText 2 d.month ++ "-" ++ natText 2 d.day ++ " " ++
    natText 2 m.hour ++ ":" ++ natText 2 m.minute ++ ":" ++ natText 2 m.second

end Moment

/-! ## Reading -/

/-- A number written with exactly `count` digits, and what follows it. -/
def takeNumber? (count : Nat) (cs : List Char) : Option (Nat × List Char) :=
  let digits := cs.take count
  if digits.length == count && digits.all Char.isDigit then
    (digitsValue? digits).map (·, cs.drop count)
  else none

/-- The rest of a text after a given character. -/
def after? (c : Char) (cs : List Char) : Option (List Char) :=
  match cs with
  | d :: rest => if d == c then some rest else none
  | [] => none

/-- A date in international form, and what follows it. -/
def takeDate? (cs : List Char) : Option (Date × List Char) := do
  let (year, cs) ← takeNumber? 4 cs
  let (month, cs) ← takeNumber? 2 (← after? '-' cs)
  let (day, cs) ← takeNumber? 2 (← after? '-' cs)
  let date : Date := ⟨year, month, day⟩
  if date.isValid then some (date, cs) else none

/-- The microseconds of a fraction: three or six digits, or more that are cut off. -/
def fractionMicros? (digits : List Char) : Option Nat :=
  if digits.isEmpty then none
  else digitsValue? ((digits ++ List.replicate 6 '0').take 6)

/-- A time of day in microseconds, and what follows it. -/
def takeTime? (cs : List Char) : Option (Nat × List Char) := do
  let (hour, cs) ← takeNumber? 2 cs
  let (minute, cs) ← takeNumber? 2 (← after? ':' cs)
  let (second, cs) ←
    match cs with
    | ':' :: rest => takeNumber? 2 rest
    | _ => some (0, cs)
  let (micros, cs) ←
    match cs with
    | '.' :: rest =>
      (fractionMicros? (rest.takeWhile Char.isDigit)).map (·, rest.dropWhile Char.isDigit)
    | _ => some (0, cs)
  if hour < 24 && minute < 60 && second < 60 then
    some (((hour * 60 + minute) * 60 + second) * 1000000 + micros, cs)
  else none

/-- The offset at the end of a moment: none, the letter for universal time, or a sign
    with hours and minutes. -/
def zoneSuffix? (cs : List Char) : Option (Option Zone) :=
  match cs with
  | [] => some none
  | ['Z'] => some (some Zone.utc)
  | sign :: rest => do
    let (micros, tail) ← takeTime? rest
    let seconds : Int := micros / 1000000
    if !tail.isEmpty then none
    else if sign == '+' then some (some (.fixed seconds))
    else if sign == '-' then some (some (.fixed (-seconds)))
    else none

/-- Reads a date in international form. -/
def Date.ofIso? (text : String) : Option Date := do
  let (date, rest) ← takeDate? text.toList
  if rest.isEmpty then some date else none

/-- Reads a moment in international form; a date alone is its midnight. -/
def Moment.ofIso? (text : String) : Option Moment := do
  let (date, rest) ← takeDate? text.toList
  match rest with
  | [] => some ⟨Moment.midnight date, none, false⟩
  | _ :: rest =>
    let (micros, rest) ← takeTime? rest
    let zone ← zoneSuffix? rest
    some ⟨Moment.midnight date + micros, zone, false⟩

end SerialNumbers.Time
