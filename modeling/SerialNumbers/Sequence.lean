/-
  SerialNumbers.Sequence

  Sequences: a named counter of a tenant, with the pattern of its numbers and
  the rules for starting again.
-/
import SerialNumbers.Fields
import SerialNumbers.Pattern.Template
import SerialNumbers.Period

namespace SerialNumbers

open Time

/-- A tenant and the name of a sequence. -/
abbrev Key := String × String

structure Sequence where
  id : Option Int
  tenant : String
  name : String
  pattern : String
  period : Period
  /-- The counter value from which on the counter starts again. -/
  limit : Option Int
  padding : Int
  step : Int
  current : Int
  lastResetAt : Option Moment
  /-- Counts the changes. -/
  version : Int
  metadata : List (String × Value)
  createdAt : Moment
  updatedAt : Moment
deriving Repr

namespace Sequence

def key (s : Sequence) : Key := (s.tenant, s.name)

/-- The counter value after the current one. -/
def nextValue (s : Sequence) : Int := s.current + s.step

/-- The longest name. -/
def maxName : Nat := 100

/-- The greatest padding. -/
def maxPadding : Int := 20

/-! ## Fields -/

/-- Reads a sequence; times that are not given are `now`. -/
def ofFields (now : Moment) (f : Fields) : Except Failure Sequence :=
  Checked.value <|
    Checked.of Sequence.mk
    |>.and (f.get "id" (.optional .whole) none)
    |>.and (f.require "tenant_id" (.asText (.textOf 1 none)))
    |>.and (f.require "sequence_name" (.textOf 1 (some maxName)))
    |>.and (f.require "pattern" (.textOf 1 (some Pattern.maxLength)))
    |>.and (f.get "reset_period" (.listed Period.named?) .never)
    |>.and (f.get "reset_limit" (.optional (.above 0)) none)
    |>.and (f.get "padding" (.within 0 maxPadding) 5)
    |>.and (f.get "step_size" (.atLeast 1) 1)
    |>.and (f.get "current_value" (.atLeast 0) 0)
    |>.and (f.get "last_reset_at" (.optional .moment) none)
    |>.and (f.get "version" (.atLeast 0) 0)
    |>.and (f.get "metadata" .record [])
    |>.and (f.get "created_at" .moment now)
    |>.and (f.get "updated_at" .moment now)

/-- An absent value, or a whole number. -/
def wholeOrNone (n : Option Int) : Value :=
  n.elim .none .whole

/-- An absent value, or a moment. -/
def momentOrNone (m : Option Moment) : Value :=
  m.elim .none .moment

/-- The fields of a sequence by name. -/
def toFields (s : Sequence) : List (String × Value) :=
  [("id", wholeOrNone s.id), ("tenant_id", .text s.tenant), ("sequence_name", .text s.name),
   ("pattern", .text s.pattern), ("reset_period", .text s.period.name),
   ("reset_limit", wholeOrNone s.limit), ("padding", .whole s.padding),
   ("step_size", .whole s.step), ("current_value", .whole s.current),
   ("last_reset_at", momentOrNone s.lastResetAt), ("version", .whole s.version),
   ("metadata", .record s.metadata), ("created_at", .moment s.createdAt),
   ("updated_at", .moment s.updatedAt)]

/-! ## Configuration -/

/-- The fields that may be changed by hand; the counter moves by its own rules only. -/
def configurationFields : List String :=
  ["pattern", "reset_period", "reset_limit", "padding", "step_size", "metadata"]

/-- The sequence with some fields of its configuration changed. -/
def changed (s : Sequence) (changes : List (String × Value)) (now : Moment) :
    Except Failure Sequence :=
  let fixed := (changes.map (·.1)).filter fun name => !configurationFields.contains name
  if !fixed.isEmpty then
    .error (.value (.fixedFields (Failure.sortedKeys fixed.eraseDups)))
  else
    ofFields now (Table.ofList (s.toFields ++ changes ++
      [("version", .whole (s.version + 1)), ("updated_at", .moment now)]))

end Sequence

end SerialNumbers
