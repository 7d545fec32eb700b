/-
  SerialNumbers.Findings

  What a check found: errors and warnings for people, and codes for programs.
  A code is listed once however often it is found.
-/

namespace SerialNumbers

structure Findings where
  errors : List String := []
  warnings : List String := []
  codes : List String := []
deriving Repr, DecidableEq, Inhabited

namespace Findings

/-! ## Codes -/

def nestedConditional := "nested_conditional_not_supported"
def unclosedConditional := "unclosed_conditional"
def invalidCondition := "invalid_condition"
def missingTrueBranch := "missing_true_branch"
def unbalancedBraces := "unbalanced_braces"
def emptyPlaceholder := "empty_placeholder"
def invalidToken := "invalid_variable_token"
def invalidParameter := "invalid_parameter"
def patternTooLong := "pattern_too_long"
def emptyPattern := "empty_pattern"
def missingContext := "missing_context"
def invalidContextValue := "invalid_context_value"
def forbiddenVariable := "forbidden_variable"

/-! ## Collecting -/

def none : Findings := {}

/-- No errors. -/
def isValid (f : Findings) : Bool :=
  f.errors.isEmpty

/-- Warnings alone. -/
def success (warnings : List String) : Findings :=
  { warnings }

def failed (errors : List String) : Findings :=
  { errors }

/-- Lists a code that is not listed yet; the empty code is no code. -/
def addCode (codes : List String) (code : String) : List String :=
  if code.isEmpty || codes.contains code then codes else codes ++ [code]

def error (f : Findings) (message code : String) : Findings :=
  { f with errors := f.errors ++ [message], codes := addCode f.codes code }

def warn (f : Findings) (message : String) : Findings :=
  { f with warnings := f.warnings ++ [message] }

/-- Lists a code of another check that is not listed yet. -/
def takeCode (codes : List String) (code : String) : List String :=
  if codes.contains code then codes else codes ++ [code]

/-- Adds what another check found. -/
def merge (f g : Findings) : Findings :=
  { errors := f.errors ++ g.errors
    warnings := f.warnings ++ g.warnings
    codes := g.codes.foldl takeCode f.codes }

@[simp] theorem merge_errors (f g : Findings) : (f.merge g).errors = f.errors ++ g.errors := rfl

@[simp] theorem isValid_merge (f g : Findings) :
    (f.merge g).isValid = (f.isValid && g.isValid) := by
  cases hf : f.errors <;> simp [isValid, hf]

@[simp] theorem isValid_error (f : Findings) (message code : String) :
    (f.error message code).isValid = false := by
  simp [isValid, error]

@[simp] theorem isValid_warn (f : Findings) (message : String) :
    (f.warn message).isValid = f.isValid := rfl

end Findings

end SerialNumbers
