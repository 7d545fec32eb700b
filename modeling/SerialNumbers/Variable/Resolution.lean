/-
  SerialNumbers.Variable.Resolution

  What a token stands for.  A name belongs to the engine, or to a registered
  variable, or to the caller's context, in this order.  The engine's values
  stand in the context too, in place of the caller's under the same names, so
  that nobody can change them.
-/
import SerialNumbers.Shape.Reader
import SerialNumbers.Variable.Registry

namespace SerialNumbers

open Text Pattern Time

/-! ## Widths -/

/-- The greatest width of the counter and of context values. -/
def maxCounterWidth : Nat := 20

/-- The greatest width of the other variables of the engine. -/
def maxFieldWidth : Nat := 10

/-- The width that a parameter gives: a number from 1 to `most` in digits of any script.
    Numerals that are no digits look like a number and cannot be read as one, and neither can
    too many digits. -/
def width? (most : Nat) (parameter : String) : Except Failure (Option Nat) :=
  let cs := parameter.toList
  if cs.isEmpty || !cs.all isNumeral then .ok none
  else
    match digitsValue? cs with
    | none => .error (.value (.numeral parameter))
    | some n =>
      if maxDigits < cs.length then .error (.value (.longNumeral cs.length maxDigits))
      else .ok (if 1 ≤ n && n ≤ most then some n else none)

/-! ## Scopes -/

namespace Scope

/-- The engine's values as context values. -/
def engineValues (o : Occasion) : List (String × Value) :=
  (Builtin.values o).map fun e => (e.1, .text e.2)

/-- No two variables of the engine have names with one upper-case form. -/
theorem upper_name_beq (a b : Builtin) : (upper a.name == upper b.name) = (a == b) := by
  have hall : ∀ a ∈ Builtin.all, ∀ b ∈ Builtin.all,
      (upper a.name == upper b.name) = (a == b) := by decide +kernel
  have hmem (b : Builtin) : b ∈ Builtin.all := by cases b <;> decide
  exact hall a (hmem a) b (hmem b)

/-- Where the engine's values take the place of the caller's, they are found under the names of
    their variables, in any spelling. -/
theorem get?_withBuiltins (c : Context) (o : Occasion) (b : Builtin) {key : String}
    (hkey : upper key = upper b.name) :
    (c.withBuiltins (engineValues o)).get? key = some (.text (b.value o)) := by
  -- The engine's own pairs come last, and only one of them has the name.
  have hlast : (engineValues o).reverse.find? (fun e => upper b.name == upper e.1) =
      some (b.name, .text (b.value o)) := by
    have hvalues : engineValues o = Builtin.all.map fun b => (b.name, .text (b.value o)) := by
      unfold engineValues Builtin.values
      rw [List.map_map]
      rfl
    rw [hvalues, ← List.map_reverse, List.find?_map]
    simp only [Function.comp_def, upper_name_beq]
    cases b <;> rfl
  unfold Context.withBuiltins
  rw [Context.get?_ofPairs, List.reverse_append, List.find?_append, hkey, hlast]
  rfl

end Scope

/-- All that tokens may stand for in one evaluation.  Nobody can change what the engine's
    variables stand for: its own values are found in the context. -/
structure Scope where
  registry : Registry
  context : Context
  occasion : Occasion
  get?_engine (b : Builtin) {key : String} (hkey : upper key = upper b.name) :
    context.get? key = some (.text (b.value occasion))

namespace Scope

/-- The scope of a caller's context on an occasion. -/
def of (registry : Registry) (context : Context) (occasion : Occasion) : Scope where
  registry := registry
  context := context.withBuiltins (engineValues occasion)
  occasion := occasion
  get?_engine := get?_withBuiltins context occasion

/-- The scope of a caller's context for a counter value at a moment. -/
def forMoment (registry : Registry) (context : Context) (moment : Moment) (counter padding : Int) :
    Except Failure Scope := do
  return of registry context (← Occasion.at moment counter padding)

/-- A variable of the engine has the engine's value. -/
theorem rendered_engine (s : Scope) (b : Builtin) (default : String) :
    s.context.rendered b.name default = .ok (b.value s.occasion) := by
  unfold Context.rendered
  rw [s.get?_engine b rfl]
  rfl

end Scope

/-! ## Resolving -/

/-- The text of a variable of the engine with a plain text. -/
def formatBuiltin (o : Occasion) (b : Builtin) (plain : String) (parameter : Option String) :
    Except Failure String :=
  match parameter with
  | none => if b == .counter then zeroPadded o.padding plain else .ok plain
  | some parameter =>
    if b == .counter then do
      match ← width? maxCounterWidth parameter with
      | some width => return zeroFill width plain
      | none => .error (.malformedBy s!"Invalid COUNTER width '{parameter}'")
    else
      match b.format? parameter with
      | some format => .ok (format.text o)
      | none => do
        match ← width? maxFieldWidth parameter with
        | some width => return zeroFill width plain
        | none =>
          .error (.malformedBy
            ("Invalid format parameter '" ++ parameter ++ "' for " ++ b.name))

/-- The text of a variable of the engine. -/
def Scope.resolveBuiltin (s : Scope) (b : Builtin) (parameter : Option String) :
    Except Failure String := do
  formatBuiltin s.occasion b (← s.context.rendered b.name "") parameter

theorem Scope.resolveBuiltin_eq (s : Scope) (b : Builtin) (parameter : Option String) :
    s.resolveBuiltin b parameter =
      formatBuiltin s.occasion b (b.value s.occasion) parameter := by
  unfold resolveBuiltin
  rw [rendered_engine]
  rfl

/-- The text of a registered variable, once the context has what it needs. -/
def Variable.resolveIn (v : Variable) (c : Context) (parameter : Option String) :
    Except Failure String :=
  let missing := c.missing v.required
  if !missing.isEmpty then .error (.evaluation (.missingContext v.name missing))
  else do
    let found ← v.check c
    if !found.isValid then .error (.evaluation (.invalidContext v.name found.errors))
    else
      match parameter with
      | none => v.resolve c
      | some parameter =>
        if v.takesParameters then v.resolveWith c parameter
        else .error (.malformedBy ("Variable " ++ v.name ++ " does not accept parameters"))

def contextParameterMessage (name parameter : String) : String :=
  s!"Invalid format parameter '{parameter}' for context variable {name}"

/-- The text of a context value. -/
def formatContext (name value : String) (parameter : Option String) : Except Failure String :=
  match parameter with
  | none => .ok value
  | some parameter => do
    match ← width? maxCounterWidth parameter with
    | some width => return zeroFill width value
    | none =>
      if upper parameter == "UPPER" then return upper value
      else if upper parameter == "LOWER" then return lower value
      else .error (.malformedBy (contextParameterMessage name parameter))

namespace Scope

/-- The text that a token stands for. -/
def resolve (s : Scope) (t : Token) : Except Failure String :=
  match Builtin.named? t.name with
  | some b => s.resolveBuiltin b t.parameter
  | none =>
    match s.registry.get? t.name with
    | some v => v.resolveIn s.context t.parameter
    | none =>
      if s.context.has t.name then do
        formatContext t.name (← s.context.rendered t.name "") t.parameter
      else .error (.evaluation (.unknownVariable t.name))

/-- The context does not have what a variable needs. -/
def isAbsence : Failure → Bool
  | .evaluation (.missingContext _ _) => true
  | .evaluation (.invalidContext _ _) => true
  | _ => false

/-- The plain text of a variable for a condition, in whatever case its name is written;
    nothing if the name is unknown or the context does not have what it needs. -/
def lookup (s : Scope) (name : String) : Except Failure (Option String) :=
  match Builtin.named? (upper name) with
  | some b => some <$> s.context.rendered b.name ""
  | none =>
    match s.registry.get? (upper name) with
    | some v =>
      match v.resolveIn s.context none with
      | .ok text => .ok (some text)
      | .error e => if isAbsence e then .ok none else .error e
    | none => if s.context.has name then some <$> s.context.rendered name "" else .ok none

end Scope

/-! ## Names and parameters -/

namespace Registry

/-- The name belongs to the engine or is registered. -/
def supports (r : Registry) (name : String) : Bool :=
  Builtin.isReserved (upper name) || r.has name

/-- The names that patterns may use without a context. -/
def supported (r : Registry) : List String :=
  Builtin.listed.map (·.name) ++ r.names

/-- What is wrong with the parameter of a registered variable. -/
def customProblem? (name parameter : String) (v : Variable) : Option String :=
  let listed := v.listedParameters
  if !v.takesParameters then some s!"Variable {name} does not accept parameters"
  else if !listed.isEmpty && !listed.contains (upper parameter) then
    some (s!"Unsupported parameter '{parameter}' for {name}. Supported: " ++
      ", ".intercalate listed)
  else none

/-- What is wrong with the parameter of a variable, if anything is. -/
def parameterProblem? (r : Registry) (name parameter : String) :
    Except Failure (Option String) :=
  match Builtin.named? name with
  | some .counter => do
    match ← width? maxCounterWidth parameter with
    | some _ => return none
    | none =>
      return some (s!"COUNTER parameter must be a number between 1 and {maxCounterWidth}: " ++
        "\x7bCOUNTER:" ++ parameter ++ "\x7d")
  | some b => do
    match ← width? maxFieldWidth parameter with
    | some _ => return none
    | none =>
      return if (b.format? parameter).isSome then none
        else some s!"Invalid format parameter '{parameter}' for {name} variable"
  | none =>
    match r.get? name with
    | some v => .ok (customProblem? name parameter v)
    | none => do
      match ← width? maxCounterWidth parameter with
      | some _ => return none
      | none =>
        return if upper parameter == "UPPER" || upper parameter == "LOWER" then none
          else some (contextParameterMessage name parameter)

/-! ## Shapes of tokens -/

/-- Decimal digits, at least so many. -/
def digitsFrom (n : Nat) : Shape := .times .digit (.atLeast n)

/-- The shape of the counter: the width of its parameter or else the padding gives the
    least number of digits. -/
def counterShape (padding : Int) (parameter : String) : Except Failure Shape := do
  let width ← if parameter.isEmpty then pure (some padding.toNat)
    else width? maxCounterWidth parameter
  return digitsFrom (max (width.getD 1) 1)

/-- The shape of a variable of the engine other than the counter. -/
def builtinShape (b : Builtin) (parameter : Option String) : Except Failure Shape :=
  match parameter with
  | none => .ok b.plainShape
  | some parameter =>
    match b.format? parameter with
    | some format => .ok format.shape
    | none => do
      match ← width? maxFieldWidth parameter with
      | some width => return digitsFrom width
      | none =>
        .error (.malformedBy
          ("Invalid format parameter '" ++ parameter ++ "' for " ++ b.name))

/-- The expression that a variable declares for its tokens without a parameter. -/
def declared? (v : Variable) (parameter : Option String) : Option String :=
  match parameter with
  | none => v.expression.filter fun source => !source.isEmpty
  | some _ => none

/-- The shape of a registered variable: the one it declares, or anything. -/
def customShape (v : Variable) (parameter : Option String) : Except Failure Shape :=
  match declared? v parameter with
  | none => .ok Shape.anything
  | some source =>
    match Shape.read? source with
    | some inner => .ok (.declared source inner)
    | none => .error .badExpression

/-- The shape of the texts that a token can stand for. -/
def shape (r : Registry) (padding : Int) (t : Token) : Except Failure Shape :=
  match Builtin.named? t.name with
  | some .counter => counterShape padding (t.parameter.getD "")
  | some b => builtinShape b t.parameter
  | none =>
    match r.get? t.name with
    | some v => customShape v t.parameter
    | none => .ok Shape.anything

/-- The expression for the texts that a token can stand for.  What a variable declares
    stands in it as declared, whether or not it can be read. -/
def source (r : Registry) (padding : Int) (t : Token) : Except Failure String :=
  let declared := if Builtin.isReserved t.name then none
    else (r.get? t.name).bind (declared? · t.parameter)
  match declared with
  | some text => .ok ("(?:" ++ text ++ ")")
  | none => (r.shape padding t).map (·.source)

end Registry

end SerialNumbers
