/-
  SerialNumbers.Journal

  Notes that the parts of the engine leave about what they did: how grave it
  is, which part it was, a message, and fields with details.
-/
import SerialNumbers.Text.Case
import SerialNumbers.Value

namespace SerialNumbers

inductive Level where
  | unset
  | debug
  | info
  | warning
  | error
  | critical
deriving Repr, DecidableEq

namespace Level

def name : Level → String
  | unset => "NOTSET"
  | debug => "DEBUG"
  | info => "INFO"
  | warning => "WARNING"
  | error => "ERROR"
  | critical => "CRITICAL"

def all : List Level := [unset, debug, info, warning, error, critical]

/-- How grave a level is. -/
def rank : Level → Nat
  | unset => 0
  | debug => 10
  | info => 20
  | warning => 30
  | error => 40
  | critical => 50

/-- Other names of levels. -/
def aliases : List (String × Level) :=
  [("WARN", warning), ("FATAL", critical)]

/-- The level of a name in whatever case. -/
def named (text : String) : Except Failure Level :=
  let wanted := Text.upper text
  match all.find? (·.name == wanted), aliases.lookup wanted with
  | some level, _ | none, some level => .ok level
  | none, none => .error (.value .logLevel)

end Level

structure Note where
  level : Level
  part : String
  message : String
  fields : List (String × Value)
deriving Repr

namespace Note

/-! ## Parts of the engine -/

def storePart := "sequencing.store.memory"
def issuerPart := "sequencing.services.generation"
def registryPart := "sequencing.engine.variables"
def contentionPart := "sequencing.stress"

/-- The fields that name a sequence. -/
def sequenceFields (tenant name : String) : List (String × Value) :=
  [("tenant_id", .text tenant), ("sequence_name", .text name)]

end Note

end SerialNumbers
