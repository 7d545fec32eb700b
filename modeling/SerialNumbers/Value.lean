/-
  SerialNumbers.Value

  Values that callers hand in: texts, numbers, dates and moments, and lists and
  records of values.  A value has a shown form, a literal form (used inside
  lists and records), and the form in which it is put into a serial number.
-/
import SerialNumbers.Number.Shortest
import SerialNumbers.Number.Whole
import SerialNumbers.Text.Quoted
import SerialNumbers.Time.Moment

namespace SerialNumbers

open Number Time

inductive Value where
  | none
  | truth (b : Bool)
  | whole (n : Int)
  | real (x : Double)
  | text (s : String)
  | decimal (d : Decimal)
  | date (d : Date)
  | moment (m : Moment)
  | list (items : List Value)
  | record (entries : List (String × Value))
deriving Repr, Inhabited

namespace Value

/-! ## Literal forms -/

def dateLiteral (d : Date) : String :=
  "datetime.date(" ++ toString d.year ++ ", " ++ toString d.month ++ ", " ++ toString d.day ++ ")"

/-- An offset as a whole number of days and the seconds that remain. -/
def offsetLiteral (seconds : Int) : String :=
  let days := Int.fdiv seconds 86400
  let rest := seconds - days * 86400
  let parts := (if days == 0 then [] else ["days=" ++ toString days]) ++
    (if rest == 0 then [] else ["seconds=" ++ toString rest])
  "datetime.timedelta(" ++ ", ".intercalate parts ++ ")"

def zoneLiteral : Zone → String
  | .fixed seconds =>
    if seconds == 0 then "datetime.timezone.utc"
    else "datetime.timezone(" ++ offsetLiteral seconds ++ ")"
  | .seasonal region => "zoneinfo.ZoneInfo(key=" ++ Text.quoted region.name ++ ")"

/-- The fields of a moment; a second of zero is left out when no microseconds follow, and the
    later of two passes is marked. -/
def momentLiteral (m : Moment) : String :=
  let d := m.date
  let fields := [d.year, d.month, d.day, m.hour, m.minute] ++
    (if m.microsecond != 0 then [m.second, m.microsecond]
     else if m.second != 0 then [m.second] else [])
  let pass := if m.late then ["fold=1"] else []
  let zone := m.zone.toList.map fun zone => "tzinfo=" ++ zoneLiteral zone
  "datetime.datetime(" ++ ", ".intercalate (fields.map toString ++ pass ++ zone) ++ ")"

mutual

/-- The form in which a value is written inside a list. -/
def literal : Value → Except Failure String
  | none => .ok "None"
  | truth b => .ok (if b then "True" else "False")
  | whole n => numeral n
  | real x => .ok x.text
  | text s => .ok (Text.quoted s)
  | decimal d => .ok ("Decimal('" ++ d.text ++ "')")
  | date d => .ok (dateLiteral d)
  | moment m => .ok (momentLiteral m)
  | list items => do return "[" ++ ", ".intercalate (← literals items) ++ "]"
  | record entries => do return "\x7b" ++ ", ".intercalate (← entryLiterals entries) ++ "\x7d"

def literals : List Value → Except Failure (List String)
  | [] => .ok []
  | v :: rest => do
    let first ← literal v
    return first :: (← literals rest)

def entryLiteral : String × Value → Except Failure String
  | (k, v) => do return Text.quoted k ++ ": " ++ (← literal v)

def entryLiterals : List (String × Value) → Except Failure (List String)
  | [] => .ok []
  | e :: rest => do
    let first ← entryLiteral e
    return first :: (← entryLiterals rest)

end

/-! ## Shown and rendered forms -/

/-- The form in which a value is shown by itself. -/
def shown : Value → Except Failure String
  | text s => .ok s
  | decimal d => .ok d.text
  | date d => .ok (Moment.dateText d)
  | moment m => .ok (m.textWith " ")
  | other => other.literal

/-- A decimal in positional notation, which is longer than all texts if the exponent is large
    enough. -/
def positional (d : Decimal) : Except Failure String :=
  if d.fixedSize ≤ textRoom then .ok d.fixedText else .error .outOfMemory

/-- The form in which a value is put into a serial number. -/
def rendered : Value → Except Failure String
  | truth b => .ok (if b then "1" else "")
  | date d => .ok (Moment.dateText d)
  | moment m => .ok m.isoText
  | decimal d => positional d
  | other => other.shown

/-- The value counts as nothing where a default may take its place. -/
def isEmptyLike : Value → Bool
  | none => true
  | truth b => !b
  | whole n => n == 0
  | real x => x.isZero
  | text s => s.isEmpty
  | decimal (.finite x) => x.coefficient == 0
  | list items => items.isEmpty
  | record entries => entries.isEmpty
  | _ => false

/-- A single value, as opposed to a list or a record. -/
def isScalar : Value → Bool
  | list _ | record _ | none => false
  | _ => true

/-- The word for the kind of a value that is not single. -/
def kindName : Value → String
  | list _ => "list"
  | record _ => "dict"
  | none => "NoneType"
  | _ => "scalar"

/-- Values that are kept as they are in a record of what happened. -/
def isPlain : Value → Bool
  | none | truth _ | whole _ | real _ | text _ => true
  | _ => false

end Value

end SerialNumbers
