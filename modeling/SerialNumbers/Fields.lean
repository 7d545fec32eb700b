/-
  SerialNumbers.Fields

  Reading the fields of a record from loose values.  A number may come as a
  text, a truth value or another kind of number of the same value, but nothing
  is rounded; every field is read, so that all problems are told at once, in
  the order of the fields.
-/
import SerialNumbers.Failure
import SerialNumbers.Table
import SerialNumbers.Text.Blank
import SerialNumbers.Text.Case
import SerialNumbers.Time.Written
import SerialNumbers.Value

namespace SerialNumbers

open Number Time Text

/-! ## Checked values -/

/-- A value that was read, or all the problems that kept it from being read. -/
abbrev Checked (α : Type) := Except (List Problem) α

namespace Checked

/-- A value without problems. -/
def of {α : Type} (x : α) : Checked α := .ok x

def problems {α : Type} : Checked α → List Problem
  | .ok _ => []
  | .error ps => ps

/-- Gives one more checked value to a function; problems of both sides are kept. -/
def and {α β : Type} (f : Checked (α → β)) (x : Checked α) : Checked β :=
  match f, x with
  | .ok f, .ok x => .ok (f x)
  | f, x => .error (f.problems ++ x.problems)

/-- The value, or a failure that tells all problems. -/
def value {α : Type} (x : Checked α) : Except Failure α :=
  match x with
  | .ok x => .ok x
  | .error ps => .error (.fields ps)

end Checked

/-! ## Rules -/

/-- A rule reads a value, or says what kind of problem it has. -/
abbrev Rule (α : Type) := Value → Except Problem.Kind α

namespace Rule

/-- Digits, with single underscores between them. -/
def groupedDigits? (cs : List Char) : Option Nat :=
  let groups := cs.splitOn '_'
  if groups.all fun g => !g.isEmpty && g.all Char.isDigit then digitsValue? groups.flatten
  else none

/-- A whole number in a text: a sign, digits, and perhaps a point with zeros. -/
def wholeOfText? (s : String) : Option Int :=
  let cs := unpadded s
  let (negative, cs) := match cs with
    | '-' :: rest => (true, rest)
    | '+' :: rest => (false, rest)
    | _ => (false, cs)
  let digits := cs.takeWhile (· != '.')
  let zeros := (cs.dropWhile (· != '.')).tail
  if zeros.all (· == '0') then
    (groupedDigits? digits).map fun n => if negative then -(n : Int) else n
  else none

/-- The whole number that a rational number is; an infinity or an undefined result is given
    as none. -/
def wholeOfRat : Option Rat → Except Problem.Kind Int
  | none => .error .notFinite
  | some q => if q.den == 1 then .ok q.num else .error .fractional

/-- The whole number that a decimal is. -/
def wholeOfDecimal : Decimal → Except Problem.Kind Int
  | .finite x => if x.isWhole then .ok x.truncate else .error .fractional
  | _ => .error .notFinite

def whole : Rule Int
  | .whole n => .ok n
  | .truth b => .ok (if b then 1 else 0)
  | .text s => (wholeOfText? s).elim (.error .unreadableWhole) .ok
  | .real x => wholeOfRat x.toRat?
  | .decimal d => wholeOfDecimal d
  | _ => .error .notWhole

/-- A number that need not be whole. -/
def number : Rule Double
  | .real x => .ok x
  | .whole n => .ok (Double.ofInt n)
  | .truth b => .ok (Double.ofNat (if b then 1 else 0))
  | .decimal d => .ok (Double.ofDecimal d)
  | .text s => ((Decimal.read? s).map Double.ofDecimal).elim (.error .unreadableNumber) .ok
  | _ => .error .notNumber

/-- Words for yes, and words for no. -/
def truthWords : List (String × Bool) :=
  [("1", true), ("t", true), ("true", true), ("y", true), ("yes", true), ("on", true),
   ("0", false), ("f", false), ("false", false), ("n", false), ("no", false), ("off", false)]

def truth : Rule Bool
  | .truth b => .ok b
  | .text s => (truthWords.lookup (lower s)).elim (.error .unreadableTruth) .ok
  | .whole n =>
    if n == 0 then .ok false else if n == 1 then .ok true else .error .unreadableTruth
  | .real x =>
    if x.isZero then .ok false
    else if x.equals (Double.ofNat 1) then .ok true
    else .error .notTruth
  | _ => .error .notTruth

def text : Rule String
  | .text s => .ok s
  | _ => .error .notText

/-- A text of a least length, and perhaps a greatest. -/
def textOf (least : Nat) (most : Option Nat) : Rule String := fun v => do
  let s ← text v
  if s.length < least then throw .tooShort
  if (most.map fun most => decide (most < s.length)).getD false then throw .tooLong
  return s

/-- A text that passes a test. -/
def textWith (test : String → Bool) : Rule String := fun v => do
  let s ← text v
  if test s then return s else throw .wrongForm

/-- A name of one of some values. -/
def listed {α : Type} (named? : String → Option α) : Rule α
  | .text s => (named? s).elim (.error .notListed) .ok
  | _ => .error .notListed

/-- One of some words. -/
def literal {α : Type} (words : List (String × α)) : Rule α
  | .text s => (words.lookup s).elim (.error .notLiteral) .ok
  | _ => .error .notLiteral

/-- A moment that may be out of the calendar's range. -/
def ranged (m : Option Moment) : Except Problem.Kind Moment :=
  m.elim (.error .momentOutOfRange) .ok

/-- A moment, a date as its midnight, a written moment, or seconds since 1970. -/
def moment : Rule Moment
  | .moment m => .ok m
  | .date d => .ok ⟨Moment.midnight d, none, false⟩
  | .text s => (Moment.written? s).elim (.error .unreadableMoment) .ok
  | .whole n => ranged (Moment.ofSeconds? n 0)
  | .real x => ranged (Moment.ofReal? x)
  | .decimal d => ranged (Moment.ofReal? (Double.ofDecimal d))
  | _ => .error .notMoment

def record : Rule (List (String × Value))
  | .record entries => .ok entries
  | _ => .error .notRecord

/-- At least a given number. -/
def atLeast (least : Int) : Rule Int := fun v => do
  let n ← whole v
  if n < least then throw .notAtLeast else return n

/-- Greater than a given number. -/
def above (bound : Int) : Rule Int := fun v => do
  let n ← whole v
  if bound < n then return n else throw .notGreater

/-- At least one number and at most another. -/
def within (least most : Int) : Rule Int := fun v => do
  let n ← whole v
  if most < n then throw .notAtMost
  if n < least then throw .notAtLeast
  return n

/-- A number that is not zero or less and need not be whole. -/
def positive : Rule Double := fun v => do
  let x ← number v
  if x.le Double.zero then throw .notGreater else return x

/-- Nothing, or a value that follows a rule. -/
def optional {α : Type} (rule : Rule α) : Rule (Option α)
  | .none => .ok none
  | v => some <$> rule v

/-- A whole number or a truth value is taken for its text, which too long a number has not. -/
def asText (rule : Rule String) : Rule String
  | .whole n =>
    match numeral n with
    | .ok text => rule (.text text)
    | .error _ => .error .rejected
  | .truth b => rule (.text (if b then "True" else "False"))
  | v => rule v

end Rule

/-! ## Fields -/

/-- Values by the name of their field. -/
abbrev Fields := Table String Value

namespace Fields

/-- A field that must be there. -/
def require {α : Type} (f : Fields) (name : String) (rule : Rule α) : Checked α :=
  match f.get? name with
  | none => .error [⟨[name], .missing⟩]
  | some v => (rule v).mapError fun kind => [⟨[name], kind⟩]

/-- A field that may be left out. -/
def get {α : Type} (f : Fields) (name : String) (rule : Rule α) (default : α) : Checked α :=
  match f.get? name with
  | none => .ok default
  | some v => (rule v).mapError fun kind => [⟨[name], kind⟩]

/-- Reads the items of a list, the first of which has the given index. -/
def readItems {α : Type} (name : String) (rule : Rule α) : Nat → List Value → Checked (List α)
  | _, [] => .ok []
  | i, v :: rest =>
    Checked.and ((rule v).map List.cons |>.mapError fun kind => [⟨[name, toString i], kind⟩])
      (readItems name rule (i + 1) rest)

/-- A list field that may be left out. -/
def getList {α : Type} (f : Fields) (name : String) (rule : Rule α) : Checked (List α) :=
  match f.get? name with
  | none => .ok []
  | some (.list items) => readItems name rule 0 items
  | some _ => .error [⟨[name], .notList⟩]

end Fields

end SerialNumbers
