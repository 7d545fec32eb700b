/-
  SerialNumbers.Time.Written

  Moments as they are written in configurations: in international form with some
  freedom, or as the seconds, or for great numbers the milliseconds, since 1970.
-/
import SerialNumbers.Number.Shortest
import SerialNumbers.Time.Moment

namespace SerialNumbers.Time

open Number Text

/-! ## Clock times -/

/-- The microseconds of a fraction; digits beyond the sixth are cut off. -/
def writtenFraction? (cs : List Char) : Option (Nat × List Char) :=
  match cs with
  | c :: rest =>
    if c == '.' || c == ',' then
      (fractionMicros? (rest.takeWhile Char.isDigit)).map (·, rest.dropWhile Char.isDigit)
    else some (0, cs)
  | [] => some (0, cs)

/-- A time of day in microseconds, and what follows it.  Only seconds have a fraction. -/
def writtenTime? (cs : List Char) : Option (Nat × List Char) := do
  let (hour, cs) ← takeNumber? 2 cs
  let (minute, cs) ← takeNumber? 2 (← after? ':' cs)
  if 24 ≤ hour || 60 ≤ minute then none
  let (second, micros, cs) ←
    match cs with
    | ':' :: rest => do
      let (second, rest) ← takeNumber? 2 rest
      let (micros, rest) ← writtenFraction? rest
      pure (second, micros, rest)
    | _ => pure (0, 0, cs)
  if 60 ≤ second then none
  return (((hour * 60 + minute) * 60 + second) * 1000000 + micros, cs)

/-- The sign of an offset; a minus may be a hyphen or a minus sign. -/
def offsetSign? (c : Char) : Option Int :=
  if c == '+' then some 1 else if c == '-' || c == '\u2212' then some (-1) else none

/-- The zone at the end: none, the letter for universal time, or a sign with hours and
    minutes, between which a colon may stand. -/
def writtenZone? (cs : List Char) : Option (Option Zone) :=
  match cs with
  | [] => some none
  | ['Z'] | ['z'] => some (some .utc)
  | c :: rest => do
    let sign ← offsetSign? c
    let (hours, rest) ← takeNumber? 2 rest
    let (minutes, rest) ← takeNumber? 2 ((after? ':' rest).getD rest)
    if !rest.isEmpty || 24 ≤ hours || 60 ≤ minutes then none
    return some (.fixed (sign * (3600 * hours + 60 * minutes)))

/-! ## Seconds since 1970 -/

/-- From this size on a number is taken for milliseconds. -/
def secondsBound : Nat := 20000000000

/-- The moment that a number of seconds or milliseconds, and some microseconds, lie after
    the start of 1970, in universal time. -/
def Moment.ofSeconds? (seconds : Int) (micros : Nat) : Option Moment :=
  let scale : Int := if seconds.natAbs ≤ secondsBound then 1000000 else 1000
  let reading := Moment.epochReading + seconds * scale + micros
  if Moment.inRange reading then some ⟨reading, some .utc, false⟩ else none

/-- The moment at a number of seconds with a fraction, to the nearest microsecond. -/
def Moment.ofReal? (x : Double) : Option Moment := do
  let q ← x.toRat?
  let part := ((Double.ofRat (q - q.num.tdiv q.den)).mul (Double.ofNat 1000000)).toRat
  let micros := (2 * part.num.natAbs + part.den) / (2 * part.den)
  Moment.ofSeconds? (q.num.fdiv q.den) micros

/-! ## Texts -/

/-- A number with a sign and perhaps a fraction, in digits. -/
def numberForm? (cs : List Char) : Option Double :=
  let digits := match cs with
    | '-' :: rest | '+' :: rest => rest
    | _ => cs
  if (digits.head?.map Char.isDigit).getD false && digits.all fun c => c.isDigit || c == '.' then
    (Decimal.read? (String.ofList cs)).map Double.ofDecimal
  else none

/-- Reads a date, a date and a time, or a number. -/
def Moment.written? (text : String) : Option Moment :=
  let cs := text.toList
  match takeDate? cs with
  | some (date, []) => some ⟨Moment.midnight date, none, false⟩
  | some (date, c :: rest) =>
    if ['T', 't', ' ', '_'].contains c then do
      let (micros, rest) ← writtenTime? rest
      return ⟨Moment.midnight date + micros, ← writtenZone? rest, false⟩
    else none
  | none => (numberForm? cs).bind Moment.ofReal?

end SerialNumbers.Time
