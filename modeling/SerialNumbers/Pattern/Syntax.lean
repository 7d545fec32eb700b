/-
  SerialNumbers.Pattern.Syntax

  The check of a pattern by itself: its conditionals, the balance of its
  braces, and the form and parameter of every token in its literal text and in
  the branches of its conditionals.
-/
import SerialNumbers.Pattern.Branches
import SerialNumbers.Variable.Resolution

namespace SerialNumbers

open Pattern Text

namespace Template

/-- The texts of a segment in which tokens are read: literal text, or both branches of a
    conditional that can be read. -/
def tokenTexts : Segment → List (List Char)
  | .literal text => [text]
  | .conditional c =>
    match c.read.1 with
    | some choice => [choice.whenTrue, choice.whenFalse]
    | none => []

end Template

namespace Registry

/-- What is wrong with what stands between a pair of braces. -/
def bodyFindings (r : Registry) (body : List Char) (found : Findings) :
    Except Failure Findings :=
  let written := '\x7b' :: body ++ ['\x7d']
  if allBlank body then
    .ok (found.error "Empty placeholder \x7b\x7d in pattern" Findings.emptyPlaceholder)
  else
    match token? written with
    | none =>
      .ok (found.error ("Invalid variable token: " ++ String.ofList written)
        Findings.invalidToken)
    | some ⟨_, none⟩ => .ok found
    | some ⟨name, some parameter⟩ => do
      match ← r.parameterProblem? name parameter with
      | some problem => return found.error problem Findings.invalidParameter
      | none => return found

/-- What is wrong with the tokens of a template. -/
def tokenFindings (r : Registry) (t : Template) (found : Findings) : Except Failure Findings :=
  ((t.segments.flatMap Template.tokenTexts).flatMap braceBodies).foldlM
    (fun found body => r.bodyFindings body found) found

/-- What is wrong with a template. -/
def templateFindings (r : Registry) (t : Template) : Except Failure Findings :=
  let found := t.conditionalFindings
  if t.unclosed.isSome then .ok found
  else if !isBalanced t.text then
    .ok (found.error "Unbalanced braces in pattern" Findings.unbalancedBraces)
  else do
    let found ← r.tokenFindings t found
    return if t.hasCounter then found
      else found.warn "Pattern has no \x7bCOUNTER\x7d token; generated numbers may repeat"

/-- Checks a pattern. -/
def checkSyntax (r : Registry) (pattern : String) : Except Failure Findings :=
  if pattern.isEmpty then
    .ok (Findings.none.error "Pattern cannot be empty" Findings.emptyPattern)
  else if maxLength < pattern.length then
    .ok (Findings.none.error (Template.tooLongMessage pattern.length) Findings.patternTooLong)
  else
    let (segments, unclosed) := Pattern.segments pattern.toList
    r.templateFindings ⟨pattern, segments, unclosed⟩

end Registry

end SerialNumbers
