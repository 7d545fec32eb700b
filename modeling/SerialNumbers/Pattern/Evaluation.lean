/-
  SerialNumbers.Pattern.Evaluation

  From a template to a text, in two passes: first every conditional gives way to
  one of its branches, then every token of the text that is left gives way to
  what it stands for.  Texts that are put in are not read again.
-/
import SerialNumbers.Pattern.Branches
import SerialNumbers.Variable.Resolution

namespace SerialNumbers

open Pattern

namespace Pattern

/-- Puts texts in the place of tokens. -/
def substitute (text : Token → Except Failure (List Char)) :
    List Piece → Except Failure (List Char)
  | [] => .ok []
  | .char c :: rest => do return c :: (← substitute text rest)
  | .token t :: rest => do
    let first ← text t
    let more ← substitute text rest
    return first ++ more

end Pattern

namespace Template

/-- Evaluates a template; a token that stands for nothing is a failure. -/
def evaluate (t : Template) (s : Scope) : Except Failure String := do
  let expanded ← t.expand s.lookup
  let text ← substitute (fun token => do return (← s.resolve token).toList) (pieces expanded)
  return String.ofList text

/-- A condition on a variable that cannot be evaluated sees no value. -/
def lenientLookup (s : Scope) (name : String) : Except Failure (Option String) :=
  match s.lookup name with
  | .error e => if e.isEvaluation then .ok none else .error e
  | found => found

/-- A token that cannot be evaluated stays as it is written. -/
def lenientText (s : Scope) (token : Token) : Except Failure (List Char) :=
  match s.resolve token with
  | .ok text => .ok text.toList
  | .error e => if e.isEvaluation then .ok token.text else .error e

/-- Evaluates a template as far as that is possible. -/
def preview (t : Template) (s : Scope) : Except Failure String := do
  let expanded ← t.expand (lenientLookup s)
  let text ← substitute (lenientText s) (pieces expanded)
  return String.ofList text

end Template

end SerialNumbers
