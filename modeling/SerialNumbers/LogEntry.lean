/-
  SerialNumbers.LogEntry

  What is kept of every number that was issued and of every reset and override,
  and the numbers themselves.
-/
import SerialNumbers.Sequence

namespace SerialNumbers

open Time

/-! ## Entries -/

/-- What happened to a sequence. -/
inductive Action where
  | generated
  | overridden
  | reset
deriving Repr, DecidableEq

namespace Action

def name : Action → String
  | generated => "generated"
  | overridden => "overridden"
  | reset => "reset"

def all : List Action := [generated, overridden, reset]

def named? (name : String) : Option Action :=
  all.find? (·.name == name)

end Action

structure LogEntry where
  id : Option Int
  sequenceId : Int
  /-- The number that was issued; empty for a reset or an override. -/
  number : String
  /-- The counter value after the action. -/
  counter : Int
  context : List (String × Value)
  action : Action
  reason : Option String
  /-- Who asked for the action. -/
  causer : Option String
  createdAt : Moment
deriving Repr

namespace LogEntry

/-- Reads an entry; a time that is not given is `now`. -/
def ofFields (now : Moment) (f : Fields) : Except Failure LogEntry :=
  Checked.value <|
    Checked.of LogEntry.mk
    |>.and (f.get "id" (.optional .whole) none)
    |>.and (f.require "sequence_id" .whole)
    |>.and (f.get "generated_number" (.textOf 0 (some Pattern.maxLength)) "")
    |>.and (f.require "counter_value" (.atLeast 0))
    |>.and (f.get "context" .record [])
    |>.and (f.require "action_type" (.listed Action.named?))
    |>.and (f.get "reason" (.optional .text) none)
    |>.and (f.get "causer_id" (.optional (.asText .text)) none)
    |>.and (f.get "created_at" .moment now)

/-- An absent value, or a text. -/
def textOrNone (s : Option String) : Value :=
  s.elim .none .text

/-- The fields of an entry by name. -/
def toFields (e : LogEntry) : List (String × Value) :=
  [("id", Sequence.wholeOrNone e.id), ("sequence_id", .whole e.sequenceId),
   ("generated_number", .text e.number), ("counter_value", .whole e.counter),
   ("context", .record e.context), ("action_type", .text e.action.name),
   ("reason", textOrNone e.reason), ("causer_id", textOrNone e.causer),
   ("created_at", .moment e.createdAt)]

/-- The entry of an action on a sequence; the reason and the causer are read by the rules
    for their fields. -/
def about (s : Sequence) (action : Action) (number : String) (counter : Int)
    (context : List (String × Value)) (reason causer : Value) (now : Moment) :
    Except Failure LogEntry :=
  ofFields now (Table.ofList
    [("sequence_id", .whole (s.id.getD 0)), ("generated_number", .text number),
     ("counter_value", .whole counter), ("context", .record context),
     ("action_type", .text action.name), ("reason", reason), ("causer_id", causer),
     ("created_at", .moment now)])

/-- The entry of a reset. -/
def reset (s : Sequence) (reason causer : Value) (now : Moment) : Except Failure LogEntry :=
  about s .reset "" 0 [] reason causer now

end LogEntry

/-! ## Issued numbers -/

/-- A serial number with the counter value that it was made from. -/
structure Issued where
  number : String
  counter : Int
  issuedAt : Moment
  metadata : List (String × Value)
deriving Repr

/-- Reads an issued number; a time that is not given is `now`. -/
def Issued.ofFields (now : Moment) (f : Fields) : Except Failure Issued :=
  Checked.value <|
    Checked.of Issued.mk
    |>.and (f.require "value" (.textOf 1 (some Pattern.maxLength)))
    |>.and (f.require "counter" (.atLeast 0))
    |>.and (f.get "generated_at" .moment now)
    |>.and (f.get "metadata" .record [])

/-- The fields of an issued number by name. -/
def Issued.toFields (n : Issued) : List (String × Value) :=
  [("value", .text n.number), ("counter", .whole n.counter),
   ("generated_at", .moment n.issuedAt), ("metadata", .record n.metadata)]

end SerialNumbers
