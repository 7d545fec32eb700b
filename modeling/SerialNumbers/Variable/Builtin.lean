/-
  SerialNumbers.Variable.Builtin

  The variables of the engine: the parts of a date and time, the counter and
  its padding.  Each has a plain value, and most have named formats; a format
  goes with the shape of the texts that it produces.
-/
import SerialNumbers.Number.Whole
import SerialNumbers.Shape.Basic
import SerialNumbers.Text.Case
import SerialNumbers.Value

namespace SerialNumbers

open Text Time Number

inductive Builtin where
  | year
  | month
  | day
  | hour
  | minute
  | second
  | week
  | quarter
  | weekYear
  | dayOfWeek
  | dayOfYear
  | timestamp
  | counter
  | padding
deriving Repr, DecidableEq

namespace Builtin

/-- The variables of the engine that patterns are meant to use, in order. -/
def listed : List Builtin :=
  [year, month, day, hour, minute, second, week, quarter, weekYear, dayOfWeek, dayOfYear,
   timestamp, counter]

/-- All variables of the engine. -/
def all : List Builtin := listed ++ [padding]

def name : Builtin → String
  | year => "YEAR"
  | month => "MONTH"
  | day => "DAY"
  | hour => "HOUR"
  | minute => "MINUTE"
  | second => "SECOND"
  | week => "WEEK"
  | quarter => "QUARTER"
  | weekYear => "WEEK_YEAR"
  | dayOfWeek => "DAY_OF_WEEK"
  | dayOfYear => "DAY_OF_YEAR"
  | timestamp => "TIMESTAMP"
  | counter => "COUNTER"
  | padding => "PADDING"

/-- The variable of the engine with this name. -/
def named? (name : String) : Option Builtin :=
  all.find? (·.name == name)

/-- The name belongs to the engine. -/
def isReserved (name : String) : Bool :=
  (named? name).isSome

end Builtin

/-! ## Plain values -/

/-- What the variables of the engine are taken from.  Only numbers that can be written make an
    occasion. -/
structure Occasion where
  moment : Moment
  /-- Seconds since 1970. -/
  seconds : Double
  counter : Int
  padding : Int
  writable_counter : Writable counter
  writable_padding : Writable padding
deriving Repr

/-- The occasion of a counter value at a moment. -/
def Occasion.at (moment : Moment) (counter padding : Int) : Except Failure Occasion := do
  let seconds ← moment.epochSeconds
  let counter ← written counter
  let padding ← written padding
  return ⟨moment, seconds, counter, padding, counter.property, padding.property⟩

/-- A double cut to a whole number. -/
def wholeText (x : Double) : String :=
  toString (x.truncate?.getD 0)

namespace Builtin

/-- The value of a variable without a format. -/
def value (o : Occasion) : Builtin → String
  | year => natText 4 o.moment.date.year
  | month => natText 2 o.moment.date.month
  | day => natText 2 o.moment.date.day
  | hour => natText 2 o.moment.hour
  | minute => natText 2 o.moment.minute
  | second => natText 2 o.moment.second
  | week => natText 2 o.moment.date.week
  | quarter => toString o.moment.date.quarter
  | weekYear => natText 4 o.moment.date.weekYear
  | dayOfWeek => toString o.moment.date.weekday
  | dayOfYear => toString o.moment.date.yearDay
  | timestamp => wholeText o.seconds
  | counter => toString o.counter
  | padding => toString o.padding

/-- The values of all variables of the engine. -/
def values (o : Occasion) : List (String × String) :=
  all.map fun b => (b.name, b.value o)

end Builtin

/-! ## Named formats -/

/-- A number with its English ordinal ending. -/
def ordinal (n : Int) : String :=
  let tens := n.fmod 100
  let ending :=
    if 11 ≤ tens && tens ≤ 13 then "th"
    else
      match n.fmod 10 with
      | 1 => "st"
      | 2 => "nd"
      | 3 => "rd"
      | _ => "th"
  toString n ++ ending

def monthNames : List String :=
  ["January", "February", "March", "April", "May", "June", "July", "August", "September",
   "October", "November", "December"]

def dayNames : List String :=
  ["Monday", "Tuesday", "Wednesday", "Thursday", "Friday", "Saturday", "Sunday"]

/-- The name in a list counted from 1. -/
def nameAt (names : List String) (n : Nat) : String :=
  (names[n - 1]?).getD ""

/-- The first three letters. -/
def shortName (name : String) : String :=
  String.ofList (name.toList.take 3)

/-- A named format: the text it gives on an occasion, and the shape of its texts. -/
structure Format where
  text : Occasion → String
  shape : Shape

namespace Format

def digits (n : Shape.Times) : Shape := .times .digit n

/-- One of the digits from 1 to a last one. -/
def digitUpTo (last : Char) : Shape := .oneOf false [.range '1' last]

def capital : Shape := .oneOf false [.range 'A' 'Z']

def smalls (n : Shape.Times) : Shape := .times (.oneOf false [.range 'a' 'z']) n

def wordThen (word : String) (shape : Shape) : Shape := .seq (.word word.toList) shape

/-- A number of two digits. -/
def two (field : Occasion → Nat) : Format :=
  ⟨fun o => natText 2 (field o), digits (.exactly 2)⟩

/-- A number of four digits. -/
def four (field : Occasion → Nat) : Format :=
  ⟨fun o => natText 4 (field o), digits (.exactly 4)⟩

/-- A number of one or two digits. -/
def short (field : Occasion → Nat) : Format :=
  ⟨fun o => toString (field o), digits (.between 1 2)⟩

/-- Three letters of a name. -/
def abbreviated (names : List String) (field : Occasion → Nat) : Format :=
  ⟨fun o => shortName (nameAt names (field o)), .seq capital (smalls (.exactly 2))⟩

/-- A whole name. -/
def spelled (names : List String) (field : Occasion → Nat) : Format :=
  ⟨fun o => nameAt names (field o), .seq capital (smalls .oneOrMore)⟩

/-- The day of the month as an ordinal number. -/
def ordinalDay : Format :=
  let endings := Shape.either (.either (.either (.word "st".toList) (.word "nd".toList))
    (.word "rd".toList)) (.word "th".toList)
  ⟨fun o => ordinal o.moment.date.day, .seq (digits (.between 1 2)) (.group endings)⟩

/-- A word before the number of the quarter. -/
def quarterAfter (word : String) : Format :=
  ⟨fun o => word ++ toString o.moment.date.quarter, wordThen word (digitUpTo '4')⟩

/-- Seconds since 1970 times a factor. -/
def scaledSeconds (factor : Nat) : Format :=
  ⟨fun o => wholeText (if factor == 1 then o.seconds else o.seconds.mul (Double.ofNat factor)),
   digits .oneOrMore⟩

end Format

namespace Builtin

open Format

/-- The last two digits of the week's year. -/
def shortWeekYear : Format :=
  ⟨fun o => takeEnd 2 (weekYear.value o), digits (.exactly 2)⟩

/-- The formats of a variable, with their names. -/
def formats : Builtin → List (String × Format)
  | year =>
    let short := two (·.moment.date.year % 100)
    let long := four (·.moment.date.year)
    [("YY", short), ("YYYY", long), ("2", short), ("4", long)]
  | month =>
    [("MM", two (·.moment.date.month)), ("MON", abbreviated monthNames (·.moment.date.month)),
     ("MONTH", spelled monthNames (·.moment.date.month))]
  | day => ["ST", "ND", "RD", "TH"].map (·, ordinalDay)
  | hour => [("H", short (·.moment.hour)), ("HH", two (·.moment.hour))]
  | minute => [("M", short (·.moment.minute)), ("MM", two (·.moment.minute))]
  | second => [("S", short (·.moment.second)), ("SS", two (·.moment.second))]
  | timestamp =>
    [("S", scaledSeconds 1), ("MS", scaledSeconds 1000), ("US", scaledSeconds 1000000)]
  | quarter =>
    ["Q", "Q1", "Q2", "Q3", "Q4"].map (·, quarterAfter "Q") ++
      [("QTR", quarterAfter "QTR"), ("QUARTER", quarterAfter "Quarter ")]
  | week =>
    [("W", ⟨fun o => "W" ++ natText 2 o.moment.date.week, wordThen "W" (digits (.exactly 2))⟩),
     ("WK", ⟨fun o => "WK" ++ natText 2 o.moment.date.week, wordThen "WK" (digits (.exactly 2))⟩),
     ("WEEK", ⟨fun o => "Week " ++ toString o.moment.date.week,
        wordThen "Week " (digits (.between 1 2))⟩)]
  | weekYear =>
    let long : Format := ⟨weekYear.value, digits (.exactly 4)⟩
    [("YY", shortWeekYear), ("YYYY", long), ("2", shortWeekYear), ("4", long)]
  | dayOfWeek =>
    [("ISO", ⟨dayOfWeek.value, digitUpTo '7'⟩),
     ("SHORT", abbreviated dayNames (·.moment.date.weekday)),
     ("LONG", spelled dayNames (·.moment.date.weekday))]
  | dayOfYear | counter | padding => []

/-- The format of a variable with this name, in whatever case. -/
def format? (b : Builtin) (parameter : String) : Option Format :=
  b.formats.lookup (upper parameter)

/-- The shape of the plain value. -/
def plainShape : Builtin → Shape
  | year | weekYear => digits (.exactly 4)
  | month | day | hour | minute | second | week => digits (.exactly 2)
  | quarter => digitUpTo '4'
  | dayOfWeek => digitUpTo '7'
  | dayOfYear => digits (.between 1 3)
  | timestamp | padding | counter => digits .oneOrMore

end Builtin

end SerialNumbers
