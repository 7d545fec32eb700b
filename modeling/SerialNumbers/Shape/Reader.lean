/-
  SerialNumbers.Shape.Reader

  Reading declared expressions: alternatives, groups, classes, the usual
  escapes, and repetition with or without the mark that asks for little.
-/
import SerialNumbers.Shape.Basic

namespace SerialNumbers.Shape

open Text

/-! ## Pieces -/

/-- The character that a letter after a backslash stands for, or the letter itself. -/
def controlChar? (c : Char) : Option Char :=
  match c with
  | 't' => some '\t'
  | 'n' => some '\n'
  | 'r' => some '\r'
  | 'f' => some '\x0c'
  | 'v' => some '\x0b'
  | _ => if c.isAlphanum then none else some c

/-- The class that a letter after a backslash stands for. -/
def classLetter? (c : Char) : Option Item :=
  match c with
  | 'd' => some (.digit false)
  | 'D' => some (.digit true)
  | 'w' => some (.wordChar false)
  | 'W' => some (.wordChar true)
  | 's' => some (.blank false)
  | 'S' => some (.blank true)
  | _ => none

/-- One character of a class, written as it is or after a backslash. -/
def classChar? (cs : List Char) : Option (Char × List Char) :=
  match cs with
  | '\\' :: c :: rest => (controlChar? c).map (·, rest)
  | '\\' :: [] => none
  | c :: rest => some (c, rest)
  | [] => none

/-- A character, or a range of characters. -/
def plainMember? (cs : List Char) : Option (Item × List Char) := do
  let (first, rest) ← classChar? cs
  match rest with
  | '-' :: next :: tail =>
    if next == ']' then some (.range first first, rest)
    else
      let (last, rest) ← classChar? (next :: tail)
      if last < first then none else some (.range first last, rest)
  | _ => some (.range first first, rest)

/-- One member of a class: a class letter, a character, or a range. -/
def classMember? (cs : List Char) : Option (Item × List Char) :=
  match cs with
  | '\\' :: c :: rest =>
    match classLetter? c with
    | some item => some (item, rest)
    | none => plainMember? cs
  | _ => plainMember? cs

/-- The members of a class up to its closing bracket; a bracket that comes first is a
    member. -/
def classItems? : Nat → Bool → List Char → Option (List Item × List Char)
  | 0, _, _ => none
  | fuel + 1, isFirst, cs =>
    if cs.head? == some ']' && !isFirst then some ([], cs.tail)
    else do
      let (item, rest) ← classMember? cs
      let (items, tail) ← classItems? fuel false rest
      return (item :: items, tail)

/-! ## Repetition -/

/-- A number, if digits stand here. -/
def bound? (cs : List Char) : Option Nat × List Char :=
  let digits := cs.takeWhile Char.isDigit
  (if digits.isEmpty then none else digitsValue? digits, cs.dropWhile Char.isDigit)

/-- The bounds of a repetition between braces. -/
def bounds? (cs : List Char) : Option (Times × List Char) :=
  match bound? cs with
  | (some n, '\x7d' :: rest) => some (.exactly n, rest)
  | (least, ',' :: rest) =>
    match bound? rest with
    | (some most, '\x7d' :: rest) =>
      if most < least.getD 0 then none else some (.between (least.getD 0) most, rest)
    | (none, '\x7d' :: rest) => some (.atLeast (least.getD 0), rest)
    | _ => none
  | _ => none

/-- How often the part before is repeated, if that is said here. -/
def times? (cs : List Char) : Option (Times × List Char) :=
  match cs with
  | '*' :: rest => some (.anyNumber, rest)
  | '+' :: rest => some (.oneOrMore, rest)
  | '?' :: rest => some (.between 0 1, rest)
  | '\x7b' :: rest => bounds? rest
  | _ => none

/-- Applies the repetition that is said here; a mark that asks for little changes no
    more than which of several readings is found first. -/
def repeated (shape : Shape) (cs : List Char) : Shape × List Char :=
  match times? cs with
  | none => (shape, cs)
  | some (n, '?' :: rest) => (.times shape n, rest)
  | some (n, rest) => (.times shape n, rest)

/-! ## Expressions -/

/-- A character that needs a backslash to stand for itself. -/
def isOperatorChar (c : Char) : Bool :=
  ['(', ')', '[', '|', '*', '+', '?', '^', '$'].contains c

mutual

/-- One part: a character, a class, an escape or a group. -/
def atom? : Nat → List Char → Option (Shape × List Char)
  | 0, _ => none
  | fuel + 1, cs =>
    match cs with
    | '(' :: rest =>
      let inner := match rest with
        | '?' :: ':' :: tail => tail
        | _ => rest
      match alternatives? fuel inner with
      | some (shape, ')' :: tail) => some (.group shape, tail)
      | _ => none
    | '[' :: '^' :: rest =>
      (classItems? rest.length true rest).map fun (items, tail) => (.oneOf true items, tail)
    | '[' :: rest =>
      (classItems? rest.length true rest).map fun (items, tail) => (.oneOf false items, tail)
    | '.' :: rest => some (.any, rest)
    | '\\' :: c :: rest =>
      match classLetter? c with
      | some item => some (.oneOf false [item], rest)
      | none => (controlChar? c).map fun c => (.literal [c], rest)
    | c :: rest => if isOperatorChar c || c == '\\' then none else some (.literal [c], rest)
    | [] => none

/-- Parts in a row, each with its repetition. -/
def sequence? : Nat → List Char → Option (Shape × List Char)
  | 0, _ => none
  | fuel + 1, cs =>
    if cs.isEmpty || cs.head? == some '|' || cs.head? == some ')' then some (nothing, cs)
    else do
      let (shape, rest) ← atom? fuel cs
      let (shape, rest) := repeated shape rest
      let (more, rest) ← sequence? fuel rest
      return (.seq shape more, rest)

/-- Sequences with bars between them. -/
def alternatives? : Nat → List Char → Option (Shape × List Char)
  | 0, _ => none
  | fuel + 1, cs => do
    let (first, rest) ← sequence? fuel cs
    match rest with
    | '|' :: rest =>
      let (more, rest) ← alternatives? fuel rest
      return (.either first more, rest)
    | _ => return (first, rest)

end

/-- Reads a whole expression. -/
def read? (source : String) : Option Shape :=
  let cs := source.toList
  match alternatives? (3 * cs.length + 3) cs with
  | some (shape, []) => some shape
  | _ => none

end SerialNumbers.Shape
