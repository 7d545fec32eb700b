/-
  SerialNumbers.Catalog.Preview

  Trying out pre-built patterns: rendering one with its example context, and
  checking that the context it requires is used and exemplified.
-/
import SerialNumbers.Catalog.Query
import SerialNumbers.Pattern.Evaluation
import SerialNumbers.Validation

namespace SerialNumbers.Prebuilt

open Text Time

/-- The example context, with the given entries on top. -/
def contextWith (t : Prebuilt) (given : List (String × Value)) : Context :=
  .ofPairs (Table.ofList (t.example_ ++ given)).entries

/-- A number of the pattern; tokens that cannot be evaluated stay as they are written. -/
def preview (t : Prebuilt) (r : Registry) (given : List (String × Value)) (counter : Int)
    (now : Moment) : Except Failure String := do
  let found ← r.checkSyntax t.pattern
  if !found.isValid then
    .error (.malformed s!"Template '{t.id}' has an invalid pattern" found.errors)
  else
    let template ← Template.parse t.pattern
    template.preview (← Scope.forMoment r (t.contextWith given) now counter t.padding)

/-- The names that a pattern refers to, in upper case. -/
def referenced (template : Template) : List String :=
  template.variableNames.map upper ++ Registry.conditionNames template

/-- The context keys that registered variables of a pattern require, in upper case. -/
def requiredKeys (r : Registry) (names : List String) : List String :=
  names.flatMap fun name =>
    match r.get? name with
    | some v => v.required.map upper
    | none => []

/-- What is found about the context that a valid pattern requires. -/
def contextFindings (t : Prebuilt) (r : Registry) (template : Template) (found : Findings) :
    Findings :=
  let names := referenced template
  let known := names ++ requiredKeys r names
  let found := t.required.foldl (fun found key =>
    if known.contains (upper key) then found
    else found.warn s!"Required context '{key}' is not referenced by the pattern") found
  ((Context.ofPairs t.example_).missing t.required).foldl (fun found key =>
    found.error s!"Example context is missing required key '{key}'" Findings.missingContext)
    found

/-- Checks the pattern and the context that it requires. -/
def check (t : Prebuilt) (r : Registry) : Except Failure Findings := do
  let found ← r.checkSyntax t.pattern
  match Template.parse t.pattern with
  | .ok template => return if found.isValid then t.contextFindings r template found else found
  | .error _ => return found

end SerialNumbers.Prebuilt
