/-
  SerialNumbers.Pattern.Condition

  What a conditional asks: whether a variable has a value, or how its value
  compares with an operand.  Equality ignores case and surrounding blanks,
  membership does so for each item of a list, and the order is that of exact
  decimal numbers.
-/
import SerialNumbers.Number.Decimal
import SerialNumbers.Pattern.Token

namespace SerialNumbers.Pattern

open Text Number

/-! ## Operators -/

inductive Operator where
  | equal
  | unequal
  | greater
  | less
  | atLeast
  | atMost
  | isIn
  | notIn
deriving Repr, DecidableEq

def Operator.text : Operator → String
  | equal => "="
  | unequal => "!="
  | greater => ">"
  | less => "<"
  | atLeast => ">="
  | atMost => "<="
  | isIn => "in"
  | notIn => "not_in"

/-- A question about one variable. -/
structure Condition where
  subject : String
  comparison : Option (Operator × String)
deriving Repr, DecidableEq

/-! ## Reading -/

/-- A variable of a condition may be written in any case. -/
def isSubjectStart (c : Char) : Bool :=
  c.isAlpha || c == '_'

def isSubjectChar (c : Char) : Bool :=
  c.isAlphanum || c == '_'

/-- The name at the start of a condition, and the rest. -/
def subject? (cs : List Char) : Option (String × List Char) :=
  let cs := trimStart cs
  if (cs.head?.map isSubjectStart).getD false then
    some (String.ofList (cs.takeWhile isSubjectChar), cs.dropWhile isSubjectChar)
  else none

/-- A word between blanks: what follows the blanks behind it. -/
def wordBetween? (word : List Char) (cs : List Char) : Option (List Char) :=
  match cs with
  | c :: _ =>
    let rest := trimStart cs
    if isBlank c && word.isPrefixOf rest then
      match rest.drop word.length with
      | d :: tail => if isBlank d then some (trimStart (d :: tail)) else none
      | [] => none
    else none
  | [] => none

/-- The operator after the name, and what follows it.  The longer operators come first,
    and the words need blanks on both sides. -/
def operator? (cs : List Char) : Option (Operator × List Char) :=
  match trimStart cs with
  | '!' :: '=' :: rest => some (.unequal, rest)
  | '>' :: '=' :: rest => some (.atLeast, rest)
  | '<' :: '=' :: rest => some (.atMost, rest)
  | '=' :: rest => some (.equal, rest)
  | '>' :: rest => some (.greater, rest)
  | '<' :: rest => some (.less, rest)
  | _ =>
    match wordBetween? "not_in".toList cs with
    | some rest => some (.notIn, rest)
    | none => (wordBetween? "in".toList cs).map (.isIn, ·)

namespace Condition

/-- Reads a condition: a name alone, or a name, an operator and an operand on one line. -/
def read? (cs : List Char) : Option Condition := do
  let (subject, rest) ← subject? cs
  match operator? rest with
  | some (operator, operand) =>
    let operand := trim operand
    if operand.contains '\n' then none
    else some ⟨subject, some (operator, String.ofList operand)⟩
  | none => if allBlank rest then some ⟨subject, none⟩ else none

/-- A comparison that needs an operand has none. -/
def lacksOperand (c : Condition) : Bool :=
  match c.comparison with
  | some (.equal, _) | some (.unequal, _) | none => false
  | some (_, operand) => operand.isEmpty

/-! ## Deciding -/

/-- The form in which texts are compared. -/
def normalForm (s : String) : String :=
  upper (strip s)

def sameText (a b : String) : Bool :=
  normalForm a == normalForm b

/-- The text is one of the items of a list with commas. -/
def isMember (a items : String) : Bool :=
  ((items.toList.splitOn ',').map fun item => normalForm (String.ofList item)).contains
    (normalForm a)

/-- Compares two texts as numbers; nothing holds unless both are finite numbers. -/
def numbers (test : Scaled → Scaled → Bool) (a b : String) : Bool :=
  match Decimal.readFinite? a, Decimal.readFinite? b with
  | some x, some y => test x y
  | _, _ => false

def compares (operator : Operator) (actual operand : String) : Bool :=
  match operator with
  | .equal => sameText actual operand
  | .unequal => !sameText actual operand
  | .isIn => isMember actual operand
  | .notIn => !isMember actual operand
  | .greater => numbers (fun x y => y.lt x) actual operand
  | .less => numbers Scaled.lt actual operand
  | .atLeast => numbers (fun x y => y.le x) actual operand
  | .atMost => numbers Scaled.le actual operand

/-- Whether the condition holds when its variable has this value; a variable without a
    value counts as the empty text. -/
def holds (c : Condition) (value : Option String) : Bool :=
  let actual := value.getD ""
  match c.comparison with
  | none => !actual.isEmpty
  | some (operator, operand) => compares operator actual operand

end Condition

end SerialNumbers.Pattern
