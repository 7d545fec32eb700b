/-
  SerialNumbers.Validation

  Checks that go beyond the syntax of a pattern: repeated variables and
  involved patterns, whether a context has what a pattern needs and whether the
  pattern needs what the context has, and restrictions on length and variables.
-/
import SerialNumbers.Pattern.Matcher
import SerialNumbers.Pattern.Syntax

namespace SerialNumbers

open Pattern Text

/-- The longest text in a context. -/
def maxContextText : Nat := 100

/-- The complexity from which on a pattern is called involved. -/
def highComplexity : Nat := 80

namespace Registry

/-! ## Patterns -/

/-- The names of the tokens in literal text, in order. -/
def literalNames (t : Template) : List String :=
  t.segments.flatMap fun
    | .literal text => (tokens text).map (·.name)
    | .conditional _ => []

/-- Warns of variables that stand in literal text more than once. -/
def warnRepeated (t : Template) (found : Findings) : Findings :=
  let names := literalNames t
  names.eraseDups.foldl (fun found name =>
    let count := names.count name
    if 1 < count then
      found.warn ("Variable \x7b" ++ name ++ "\x7d appears " ++ toString count ++
        " times outside conditionals")
    else found) found

/-- Warns of an involved pattern. -/
def warnInvolved (t : Template) (found : Findings) : Findings :=
  if highComplexity ≤ t.complexity then
    found.warn s!"Pattern complexity is high ({t.complexity}/100); consider simplifying"
  else found

/-- Checks the syntax of a pattern, and a valid one for what is unwise. -/
def checkPattern (r : Registry) (pattern : String) : Except Failure Findings := do
  let found ← r.checkSyntax pattern
  match Template.parse pattern with
  | .ok t => return if found.isValid then warnInvolved t (warnRepeated t found) else found
  | .error _ => return found

/-! ## Contexts -/

/-- The variables of the conditions that can be read, in upper case. -/
def conditionNames (t : Template) : List String :=
  t.conditionals.filterMap fun c => c.read.1.map fun choice => upper choice.condition.subject

/-- What is wrong with a context value. -/
def valueProblem? (value : Value) : Option String :=
  match value with
  | .none => none
  | .text s =>
    if maxContextText < s.length then some s!"is longer than {maxContextText} characters"
    else if s.toList.any (fun c => c == '\x7b' || c == '\x7d') then
      some "contains pattern braces"
    else none
  | value => if value.isScalar then none else some s!"must be a scalar, got {value.kindName}"

/-- What a registered variable finds in a context. -/
def customFindings (c : Context) (name : String) (v : Variable) (found : Findings) :
    Except Failure Findings :=
  let missing := c.missing v.required
  if !missing.isEmpty then
    .ok (found.error ("Variable \x7b" ++ name ++ "\x7d requires context key(s): " ++
      ", ".intercalate missing) Findings.missingContext)
  else do
    let checked ← v.check c
    let found := checked.errors.foldl (fun found e =>
      found.error (name ++ ": " ++ e) Findings.invalidContextValue) found
    return checked.warnings.foldl (fun found w => found.warn (name ++ ": " ++ w)) found

/-- What a variable of a pattern finds in a context. -/
def variableFindings (r : Registry) (c : Context) (found : Findings) (name : String) :
    Except Failure Findings :=
  if Builtin.isReserved (upper name) then .ok found
  else
    match r.get? name with
    | some v => customFindings c name v found
    | none =>
      .ok (if c.has name then found
        else found.error s!"Required context variable missing: {name}" Findings.missingContext)

/-- The context keys that a pattern uses, in upper case. -/
def usedKeys (r : Registry) (t : Template) : List String :=
  (t.variableNames.flatMap fun name =>
    if Builtin.isReserved (upper name) then [name]
    else
      match r.get? name with
      | some v => name :: (v.required ++ v.optional).map upper
      | none => [name]) ++ conditionNames t

/-- What is found about one entry of a context. -/
def entryFindings (used : List String) (found : Findings) (entry : String × Value) : Findings :=
  let found := match valueProblem? entry.2 with
    | some problem =>
      found.error s!"Context value for '{entry.1}' {problem}" Findings.invalidContextValue
    | none => found
  if used.contains (upper entry.1) then found
  else found.warn s!"Context variable '{entry.1}' is not used by the pattern"

/-- Checks a context against a pattern. -/
def checkContext (r : Registry) (c : Context) (pattern : String) : Except Failure Findings :=
  match Template.parse pattern with
  | .error _ => .ok (Findings.none.error "Pattern cannot be parsed" "")
  | .ok t => do
    let found ← t.variableNames.foldlM (r.variableFindings c) Findings.none
    return c.toPairs.foldl (entryFindings (r.usedKeys t)) found

/-! ## Restrictions -/

/-- Adds what is found about a context, if one is given. -/
def contextFindings (r : Registry) (pattern : String) (context : Option Context)
    (found : Findings) : Except Failure Findings :=
  match context with
  | some c => found.merge <$> r.checkContext c pattern
  | none => .ok found

/-- Checks that a pattern keeps to a greatest length. -/
def limitFindings (pattern : String) (limit : Option Int) (found : Findings) :
    Except Failure Findings :=
  match limit with
  | some limit =>
    if limit < pattern.length then do
      return found.error ("Pattern exceeds maximum length of " ++ (← Number.numeral limit) ++
        " characters") Findings.patternTooLong
    else .ok found
  | none => .ok found

/-- Checks that a pattern does without forbidden variables. -/
def forbiddenFindings (pattern : String) (forbidden : List String) (found : Findings) :
    Findings :=
  match Template.parse pattern with
  | .error _ => found
  | .ok t =>
    forbidden.foldl (fun found name =>
      if t.hasVariable name then
        found.error ("Forbidden variable used in pattern: " ++ upper name)
          Findings.forbiddenVariable
      else found) found

/-- Checks a pattern, a context if one is given, and restrictions. -/
def checkConfiguration (r : Registry) (pattern : String) (context : Option Context)
    (limit : Option Int) (forbidden : List String) : Except Failure Findings := do
  let found ← r.checkPattern pattern
  let found ← r.contextFindings pattern context found
  let found ← limitFindings pattern limit found
  return forbiddenFindings pattern forbidden found

end Registry

end SerialNumbers
