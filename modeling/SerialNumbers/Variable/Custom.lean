/-
  SerialNumbers.Variable.Custom

  Variables that are added to those of the engine.  A variable names the context
  keys that it needs and those that it may use, checks a context, and finds its
  value in a context; it may accept parameters from a list, or any parameter.
-/
import SerialNumbers.Context
import SerialNumbers.Failure
import SerialNumbers.Findings
import SerialNumbers.Pattern.Token

namespace SerialNumbers

open Text

/-- The parameters that a variable accepts. -/
inductive Parameters where
  /-- Parameters by name, in upper case; a function of the value and the parameter gives
      the text. -/
  | listed (names : List String) (apply : String → String → String)
  /-- Any parameter; the text is found from the context. -/
  | free (resolve : Context → String → Except Failure String)

/-- A variable outside the engine. -/
structure Variable where
  name : String
  description : String
  required : List String
  optional : List String
  parameters : Parameters
  /-- The declared expression of the shape of its values. -/
  expression : Option String
  resolve : Context → Except Failure String
  check : Context → Except Failure Findings

namespace Variable

/-- Whether a parameter may be given at all. -/
def takesParameters (v : Variable) : Bool :=
  match v.parameters with
  | .listed names _ => !names.isEmpty
  | .free _ => true

/-- The parameters that are listed. -/
def listedParameters (v : Variable) : List String :=
  match v.parameters with
  | .listed names _ => names
  | .free _ => []

/-- The plain check: every required key is there. -/
def requireKeys (required : List String) (c : Context) : Findings :=
  let missing := c.missing required
  if missing.isEmpty then Findings.none
  else Findings.failed ["Missing context key(s): " ++ ", ".intercalate missing]

def unsupportedMessage (v : Variable) (parameter : String) (names : List String) : String :=
  "Unsupported parameter '" ++ parameter ++ "' for " ++ v.name ++ ". Supported: " ++
    (if names.isEmpty then "none" else ", ".intercalate names)

/-- The text for a parameter. -/
def resolveWith (v : Variable) (c : Context) (parameter : String) : Except Failure String :=
  match v.parameters with
  | .free resolve => resolve c parameter
  | .listed names apply =>
    if names.contains (upper parameter) then do
      return apply (← v.resolve c) (upper parameter)
    else .error (.malformedBy (v.unsupportedMessage parameter names))

/-! ## Making variables -/

/-- The value of a context key as it is shown, in upper case. -/
def fromKey (key : String) (c : Context) : Except Failure String :=
  match c.get? key with
  | some value => upper <$> value.shown
  | none => .error .absentKey

/-- A variable with the plain check, whose parameters do not change its value. -/
def plain (name description : String) (required optional parameters : List String)
    (expression : Option String) (resolve : Context → Except Failure String) : Variable :=
  { name, description, required, optional, expression, resolve
    parameters := .listed parameters fun value _ => value
    check := fun c => .ok (requireKeys required c) }

/-- A variable that needs nothing and accepts any parameter, which follows the value after
    a tilde; without a parameter it may refuse, with a message. -/
def unlisted (name value : String) (refusal : Option String) : Variable :=
  { name
    description := ""
    required := []
    optional := []
    expression := none
    resolve := fun _ =>
      refusal.elim (.ok value) fun message => .error (.evaluation (.refused message))
    check := fun _ => .ok Findings.none
    parameters := .free fun _ parameter => .ok (value ++ "~" ++ parameter) }

/-! ## Names -/

/-- A name that a token can hold: a capital letter and then capitals, digits and
    underscores.  A line end behind it is let pass. -/
def hasValidName (v : Variable) : Bool :=
  let cs := v.name.toList
  let cs := if cs.getLast? == some '\n' then cs.dropLast else cs
  match cs with
  | [] => false
  | c :: rest => c.isUpper && rest.all Pattern.isNameChar

end Variable

end SerialNumbers
