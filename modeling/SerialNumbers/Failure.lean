/-
  SerialNumbers.Failure

  Everything that can go wrong, by cause, with its wording in one place.
-/
import SerialNumbers.Text.Quoted

namespace SerialNumbers

/-! ## Field problems -/

/-- What is wrong with the value of one field of a record. -/
inductive Problem.Kind where
  | missing
  | notText
  | tooShort
  | tooLong
  | wrongForm
  | notWhole
  | unreadableWhole
  | fractional
  | notNumber
  | unreadableNumber
  | notTruth
  | unreadableTruth
  | notGreater
  | notAtLeast
  | notAtMost
  | notListed
  | notLiteral
  | notRecord
  | notList
  | notMoment
  | unreadableMoment
  | momentOutOfRange
  | notFinite
  | rejected
deriving Repr, DecidableEq

/-- The code of a problem, for programs. -/
def Problem.Kind.code : Problem.Kind → String
  | missing => "missing"
  | notText => "string_type"
  | tooShort => "string_too_short"
  | tooLong => "string_too_long"
  | wrongForm => "string_pattern_mismatch"
  | notWhole => "int_type"
  | unreadableWhole => "int_parsing"
  | fractional => "int_from_float"
  | notNumber => "float_type"
  | unreadableNumber => "float_parsing"
  | notTruth => "bool_type"
  | unreadableTruth => "bool_parsing"
  | notGreater => "greater_than"
  | notAtLeast => "greater_than_equal"
  | notAtMost => "less_than_equal"
  | notListed => "enum"
  | notLiteral => "literal_error"
  | notRecord => "dict_type"
  | notList => "list_type"
  | notMoment => "datetime_type"
  | unreadableMoment => "datetime_from_date_parsing"
  | momentOutOfRange => "datetime_parsing"
  | notFinite => "finite_number"
  | rejected => "value_error"

/-- A problem and the place where it is: a field, and an index inside a list field. -/
structure Problem where
  place : List String
  kind : Problem.Kind
deriving Repr, DecidableEq

/-! ## Causes of failure -/

/-- Values that are refused by a rule on the value itself. -/
inductive BadValue where
  | numeral (text : String)
  /-- A number of more digits than are read. -/
  | longNumeral (digits limit : Nat)
  /-- A number of more digits than are written. -/
  | longWhole (limit : Nat)
  | yearRange (year : Int)
  | period (text : String)
  | action (text : String)
  | zoneAbsolute (key : String)
  | zoneNotNormal (key : String)
  | zoneOutside (key : String)
  | logLevel
  | negativeCounter (value : Int)
  | fixedFields (names : List String)
  | templateTaken (id : String)
  | sharedStoreNeeded
  | openPlaceName
  | openPlace
  | placeKind (kind : Char) (index : Nat)
  | excessWidth
  | excessPrecision
  | undefinedWhole
  | undefinedDecimal
  | signalingDecimal
deriving Repr, DecidableEq

/-- Failures of the storage behind a store. -/
inductive StorageFailure where
  | lockTimeout (tenant name : String) (timeout : Int)
  | changedWhileLocked (name : String)
  | versionMismatch (name : String) (version expected : Int)
  | unavailable (seconds : String)
deriving Repr, DecidableEq

/-- Refusals to register a custom variable. -/
inductive RegistrationFailure where
  | badName (name : String)
  | reserved (name : String)
  | taken (name : String)
deriving Repr, DecidableEq

/-- A pattern cannot be evaluated in a context. -/
inductive EvaluationFailure where
  | unknownVariable (name : String)
  | missingContext (name : String) (missing : List String)
  | invalidContext (name : String) (reasons : List String)
  | emptyNumber (pattern : String)
  | longNumber (limit : Nat)
  | refused (message : String)
deriving Repr, DecidableEq

inductive Failure where
  | sequenceNotFound (tenant name : String)
  | sequenceExists (tenant name : String)
  | duplicateNumber (tenant name number : String)
  | templateNotFound (id : String)
  | malformed (message : String) (errors : List String)
  | evaluation (cause : EvaluationFailure)
  | registration (cause : RegistrationFailure)
  | storage (cause : StorageFailure)
  | fields (problems : List Problem)
  | value (cause : BadValue)
  | emptySample
  | raised (message : String)
  | incomparable
  | absentKey
  | timeOverflow
  /-- A width that is beyond all widths that can be asked for. -/
  | widthOverflow
  /-- A text for which there is no room. -/
  | outOfMemory
  | divisionByZero
  | unknownZone
  | connectionRefused
  | badConnectionText
  | badExpression
  | badMarkup
  /-- Values that do not go with what is to be done with them. -/
  | badArguments
deriving Repr, DecidableEq

namespace Failure

/-! ## Wording -/

/-- The keys that are missing, in order. -/
def sortedKeys (keys : List String) : List String :=
  keys.mergeSort fun a b => !(b < a)

end Failure

def BadValue.message : BadValue → String
  | .numeral text =>
    "invalid literal for int() with base 10: " ++ String.ofList ((Text.quoted text).toList.take 200)
  | .longNumeral digits limit =>
    s!"Exceeds the limit ({limit} digits) for integer string conversion: value has {digits} " ++
      "digits; use sys.set_int_max_str_digits() to increase the limit"
  | .longWhole limit =>
    s!"Exceeds the limit ({limit} digits) for integer string conversion; " ++
      "use sys.set_int_max_str_digits() to increase the limit"
  | .yearRange year => s!"year {year} is out of range"
  | .period text => s!"{text} is not a valid ResetPeriod"
  | .action text => s!"{text} is not a valid ActionType"
  | .zoneAbsolute key => s!"ZoneInfo keys may not be absolute paths, got: {key}"
  | .zoneNotNormal key => s!"ZoneInfo keys must be normalized relative paths, got: {key}"
  | .zoneOutside key => s!"ZoneInfo keys must refer to subdirectories of TZPATH, got: {key}"
  | .logLevel => "Unable to configure handler 'default'"
  | .negativeCounter value => s!"Counter value must be >= 0, got {value}"
  | .fixedFields names => "Cannot update field(s): " ++ ", ".intercalate names
  | .templateTaken id => s!"Template '{id}' is already registered"
  | .sharedStoreNeeded => "Process mode requires SEQUENCE_STORE=postgres"
  | .openPlaceName => "incomplete format key"
  | .openPlace => "incomplete format"
  | .placeKind kind index =>
    let shown := if 31 ≤ kind.toNat && kind.toNat < 127 then kind else '?'
    s!"unsupported format character '{shown}' (0x" ++
      String.ofList (Nat.toDigits 16 kind.toNat) ++ s!") at index {index}"
  | .excessWidth => "width too big"
  | .excessPrecision => "precision too big"
  | .undefinedWhole => "cannot convert float NaN to integer"
  | .undefinedDecimal => "cannot convert NaN to integer"
  | .signalingDecimal => "cannot convert signaling NaN to float"

def StorageFailure.message : StorageFailure → String
  | .lockTimeout tenant name timeout =>
    s!"Timed out after {timeout}ms waiting for the lock on sequence '{name}' (tenant '{tenant}')"
  | .changedWhileLocked name => s!"Sequence '{name}' changed while it was locked"
  | .versionMismatch name version expected =>
    s!"Sequence '{name}' is at version {version}, expected {expected}"
  | .unavailable seconds =>
    "No database connection available: couldn't get a connection after " ++ seconds ++ " sec"

def RegistrationFailure.message : RegistrationFailure → String
  | .badName name => s!"Invalid variable name '{name}': must match ^[A-Z][A-Z0-9_]*$"
  | .reserved name => s!"Variable name '{name}' is reserved for a built-in variable"
  | .taken name => s!"Variable '{name}' is already registered; remove it before registering again"

def EvaluationFailure.message : EvaluationFailure → String
  | .unknownVariable name =>
    s!"Variable '{name}' is not a built-in, a registered custom variable, " ++
      "or a key of the generation context"
  | .missingContext name missing =>
    s!"Variable '{name}' requires context key(s): " ++
      ", ".intercalate (Failure.sortedKeys missing)
  | .invalidContext name reasons =>
    s!"Variable '{name}' rejected the context: " ++ "; ".intercalate reasons
  | .emptyNumber pattern => s!"Pattern '{pattern}' rendered an empty serial number"
  | .longNumber limit => s!"Rendered serial number is longer than {limit} characters"
  | .refused message => message

/-- The text of a failure; causes that carry none have the empty text. -/
def Failure.message : Failure → String
  | .sequenceNotFound tenant name => s!"Sequence '{name}' not found for tenant '{tenant}'"
  | .sequenceExists tenant name => s!"Sequence '{name}' already exists for tenant '{tenant}'"
  | .duplicateNumber tenant name number =>
    s!"Sequence '{name}' (tenant '{tenant}') already issued '{number}'"
  | .templateNotFound id => s!"Template '{id}' is not in the catalog"
  | .malformed message _ => message
  | .evaluation cause => cause.message
  | .registration cause => cause.message
  | .storage cause => cause.message
  | .value cause => cause.message
  | .emptySample => "no median for empty data"
  | .raised message => message
  | .fields _ | .incomparable | .absentKey | .timeOverflow | .widthOverflow | .outOfMemory
  | .divisionByZero | .unknownZone | .connectionRefused | .badConnectionText | .badExpression
  | .badMarkup | .badArguments => ""

namespace Failure

/-- The word for the kind of a failure. -/
def kind : Failure → String
  | .sequenceNotFound .. => "SequenceNotFound"
  | .sequenceExists .. => "SequenceAlreadyExists"
  | .duplicateNumber .. => "DuplicateNumber"
  | .templateNotFound _ => "TemplateNotFound"
  | .malformed .. => "MalformedPattern"
  | .evaluation (.unknownVariable _) => "UnknownVariable"
  | .evaluation (.missingContext ..) => "MissingRequiredContext"
  | .evaluation (.invalidContext ..) => "InvalidContextValue"
  | .evaluation _ => "EvaluationError"
  | .registration (.badName _) => "InvalidVariableName"
  | .registration (.reserved _) => "ReservedVariableName"
  | .registration (.taken _) => "DuplicateVariableRegistration"
  | .storage (.lockTimeout ..) => "SequenceLockTimeout"
  | .storage (.unavailable _) => "StorageUnavailable"
  | .storage _ => "ConcurrentModification"
  | .fields _ => "ValidationError"
  | .value _ => "ValueError"
  | .emptySample => "StatisticsError"
  | .raised _ => "RuntimeError"
  | .incomparable | .badArguments => "TypeError"
  | .absentKey => "KeyError"
  | .timeOverflow | .widthOverflow => "OverflowError"
  | .outOfMemory => "MemoryError"
  | .divisionByZero => "ZeroDivisionError"
  | .unknownZone => "ZoneInfoNotFoundError"
  | .connectionRefused => "OperationalError"
  | .badConnectionText => "ProgrammingError"
  | .badExpression => "error"
  | .badMarkup => "MarkupError"

/-- A pattern that is malformed for one reason. -/
def malformedBy (message : String) : Failure :=
  .malformed message [message]

/-- Contention: the caller may try the whole operation again. -/
def isRetryable : Failure → Bool
  | .storage _ => true
  | _ => false

/-- Failures of the evaluation of a pattern in a context. -/
def isEvaluation : Failure → Bool
  | .evaluation _ => true
  | _ => false

end Failure

end SerialNumbers
