/-
  SerialNumbers.Pattern.Branches

  The inside of a conditional: a condition, a question mark, and two branches
  around a colon.  A branch may hold variable tokens but no conditional.
  Choosing a branch for every conditional of a template leaves literal text and
  variable tokens.
-/
import SerialNumbers.Findings
import SerialNumbers.Pattern.Condition
import SerialNumbers.Pattern.Template

namespace SerialNumbers

namespace Pattern

open Text

/-- A conditional that could be read. -/
structure Choice where
  question : List Char
  condition : Condition
  whenTrue : List Char
  whenFalse : List Char
deriving Repr, DecidableEq

/-! ## Reading -/

/-- Splits at the first colon that is not inside braces; without one the second part is
    empty. -/
def splitBranches (depth : Int) : List Char → List Char × List Char
  | [] => ([], [])
  | c :: rest =>
    if c == ':' && depth == 0 then ([], rest)
    else
      let depth := if c == '\x7b' then depth + 1 else if c == '\x7d' then depth - 1 else depth
      let (first, second) := splitBranches depth rest
      (c :: first, second)

/-- What is wrong with the branches of a conditional. -/
def branchFindings (c : Conditional) (whenTrue whenFalse : List Char) : Findings :=
  let nested :=
    if opensConditional whenTrue || opensConditional whenFalse then
      Findings.none.error ("Nested conditionals are not supported: " ++ String.ofList c.raw)
        Findings.nestedConditional
    else Findings.none
  if allBlank whenTrue then
    nested.warn ("Empty true branch in conditional: " ++ String.ofList c.raw)
  else nested

namespace Conditional

/-- Reads a conditional: what it says, if it can be read, and the problems in it. -/
def read (c : Conditional) : Option Choice × Findings :=
  match c.body.dropWhile (· != '?') with
  | [] =>
    (none, Findings.none.error
      ("Conditional is missing '?' before its branch: " ++ String.ofList c.raw)
      Findings.missingTrueBranch)
  | _ :: branches =>
    let condition := c.body.takeWhile (· != '?')
    let question := trim condition
    let (whenTrue, whenFalse) := splitBranches 0 branches
    let found := branchFindings c whenTrue whenFalse
    match Condition.read? condition with
    | none =>
      let shown := if question.isEmpty then "(empty)" else String.ofList question
      (none, found.error ("Invalid condition syntax: " ++ shown) Findings.invalidCondition)
    | some asked =>
      (some ⟨question, asked, whenTrue, whenFalse⟩,
        if asked.lacksOperand then
          found.error ("Missing value in condition: " ++ String.ofList question)
            Findings.invalidCondition
        else found)

/-- The conditional if nothing is wrong with it. -/
def checked (c : Conditional) : Except Failure Choice :=
  match c.read with
  | (some choice, found) =>
    if found.isValid then .ok choice
    else .error (.malformed "Invalid conditional syntax" found.errors)
  | (none, found) => .error (.malformed "Invalid conditional syntax" found.errors)

end Conditional

/-- The branch for an answer. -/
def Choice.branch (choice : Choice) (holds : Bool) : List Char :=
  if holds then choice.whenTrue else choice.whenFalse

end Pattern

namespace Template

open Pattern

/-- What is wrong with the conditionals of a template. -/
def conditionalFindings (t : Template) : Findings :=
  t.conditionals.foldl (fun found c => found.merge c.read.2)
    (t.structureErrors.foldl (fun found e => found.error e Findings.unclosedConditional)
      Findings.none)

/-- The text of a segment once its condition is decided. -/
def expandSegment (lookup : String → Except Failure (Option String)) :
    Segment → Except Failure (List Char)
  | .literal text => .ok text
  | .conditional c => do
    let choice ← c.checked
    let value ← lookup choice.condition.subject
    return choice.branch (choice.condition.holds value)

/-- The texts of segments, joined. -/
def expandAll (lookup : String → Except Failure (Option String)) :
    List Segment → Except Failure (List Char)
  | [] => .ok []
  | s :: rest => do
    let first ← expandSegment lookup s
    let more ← expandAll lookup rest
    return first ++ more

/-- Replaces every conditional by its chosen branch. -/
def expand (t : Template) (lookup : String → Except Failure (Option String)) :
    Except Failure (List Char) :=
  if t.unclosed.isSome then .error (.malformed "Invalid conditional syntax" t.structureErrors)
  else expandAll lookup t.segments

end Template

end SerialNumbers
