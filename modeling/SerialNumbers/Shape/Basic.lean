/-
  SerialNumbers.Shape.Basic

  Shapes of texts: regular expressions, with the words that have a shape given
  by a relation, and the text of the expression.
-/
import SerialNumbers.Text.Blank
import SerialNumbers.Text.CaseTable
import SerialNumbers.Text.Digit

namespace SerialNumbers

open Text

/-! ## Character classes -/

/-- One member of a class of characters. -/
inductive Shape.Item where
  | range (first last : Char)
  | digit (negated : Bool)
  | wordChar (negated : Bool)
  | blank (negated : Bool)
deriving Repr, DecidableEq

/-- A character of a word: a letter with case, a digit, a numeral or an underscore. -/
def Shape.isWordChar (c : Char) : Bool :=
  c.isAlphanum || c == '_' || isNumeral c || Span.anyHolds casedSpans c.toNat

def Shape.Item.holds (item : Shape.Item) (c : Char) : Bool :=
  match item with
  | range first last => first ≤ c && c ≤ last
  | digit negated => isDecimalDigit c != negated
  | wordChar negated => isWordChar c != negated
  | blank negated => isBlank c != negated

/-! ## Repetition -/

/-- How often a part is repeated. -/
inductive Shape.Times where
  | exactly (n : Nat)
  | between (least most : Nat)
  | atLeast (n : Nat)
  | oneOrMore
  | anyNumber
  | anyNumberLazily
deriving Repr, DecidableEq

namespace Shape.Times

def text : Shape.Times → String
  | exactly n => "\x7b" ++ toString n ++ "\x7d"
  | between least most => "\x7b" ++ toString least ++ "," ++ toString most ++ "\x7d"
  | atLeast n => "\x7b" ++ toString n ++ ",\x7d"
  | oneOrMore => "+"
  | anyNumber => "*"
  | anyNumberLazily => "*?"

def least : Shape.Times → Nat
  | exactly n => n
  | between least _ => least
  | atLeast n => n
  | oneOrMore => 1
  | anyNumber | anyNumberLazily => 0

/-- How many more than the least number there may be, if that is bounded. -/
def extra? : Shape.Times → Option Nat
  | exactly _ => some 0
  | between least most => some (most - least)
  | _ => none

end Shape.Times

/-! ## Shapes -/

inductive Shape where
  /-- The text itself; its special characters are written with a backslash. -/
  | literal (text : List Char)
  /-- The text itself, which has no special characters. -/
  | word (text : List Char)
  /-- Any character but a line end. -/
  | any
  /-- A decimal digit of any script. -/
  | digit
  | oneOf (negated : Bool) (items : List Shape.Item)
  | seq (first second : Shape)
  | either (first second : Shape)
  | group (inner : Shape)
  | times (inner : Shape) (n : Shape.Times)
  /-- A shape with its expression as it was declared. -/
  | declared (source : String) (inner : Shape)
deriving Repr, DecidableEq

namespace Shape

/-- The empty text. -/
def nothing : Shape := .literal []

/-- Anything at all, as little of it as will do. -/
def anything : Shape := .times .any .anyNumberLazily

def seqAll (parts : List Shape) : Shape :=
  parts.foldl .seq nothing

/-! ## The expression -/

/-- Characters that have a meaning in expressions, and the ASCII blanks. -/
def specialChars : List Char :=
  ['(', ')', '[', ']', '\x7b', '\x7d', '?', '*', '+', '-', '|', '^', '$', '\\', '.', '&', '~',
   '#', ' ', '\t', '\n', '\r', '\x0b', '\x0c']

def escapedChar (c : Char) : List Char :=
  if specialChars.contains c then ['\\', c] else [c]

def Item.text : Item → String
  | range first last =>
    if first == last then String.ofList [first] else String.ofList [first, '-', last]
  | digit negated => if negated then "\\D" else "\\d"
  | wordChar negated => if negated then "\\W" else "\\w"
  | blank negated => if negated then "\\S" else "\\s"

def source : Shape → String
  | literal text => String.ofList (text.flatMap escapedChar)
  | word text => String.ofList text
  | any => "."
  | digit => "\\d"
  | oneOf negated items =>
    "[" ++ (if negated then "^" else "") ++ String.join (items.map Item.text) ++ "]"
  | seq first second => first.source ++ second.source
  | either first second => first.source ++ "|" ++ second.source
  | group inner => "(?:" ++ inner.source ++ ")"
  | times inner n => inner.source ++ n.text
  | declared source _ => "(?:" ++ source ++ ")"

/-! ## The words of a shape -/

/-- The character belongs to the class. -/
def classHolds (negated : Bool) (items : List Item) (c : Char) : Bool :=
  items.any (·.holds c) != negated

mutual

/-- The text has the shape. -/
inductive Matches : Shape → List Char → Prop where
  | literal (text : List Char) : Matches (.literal text) text
  | word (text : List Char) : Matches (.word text) text
  | any {c : Char} (h : c ≠ '\n') : Matches .any [c]
  | digit {c : Char} (h : isDecimalDigit c = true) : Matches .digit [c]
  | oneOf {negated : Bool} {items : List Item} {c : Char}
      (h : classHolds negated items c = true) : Matches (.oneOf negated items) [c]
  | seq {a b : Shape} {u v : List Char} (hu : Matches a u) (hv : Matches b v) :
      Matches (.seq a b) (u ++ v)
  | first {a b : Shape} {u : List Char} (hu : Matches a u) : Matches (.either a b) u
  | second {a b : Shape} {u : List Char} (hu : Matches b u) : Matches (.either a b) u
  | group {a : Shape} {u : List Char} (hu : Matches a u) : Matches (.group a) u
  | times {a : Shape} {n : Times} {k : Nat} {u : List Char} (hk : n.least ≤ k)
      (hm : ∀ extra, n.extra? = some extra → k ≤ n.least + extra) (hu : Repeats a k u) :
      Matches (.times a n) u
  | declared {source : String} {a : Shape} {u : List Char} (hu : Matches a u) :
      Matches (.declared source a) u

/-- The text is a number of texts of the shape in a row. -/
inductive Repeats : Shape → Nat → List Char → Prop where
  | zero (a : Shape) : Repeats a 0 []
  | succ {a : Shape} {k : Nat} {u v : List Char} (hu : Matches a u) (hv : Repeats a k v) :
      Repeats a (k + 1) (u ++ v)

end

/-! ## Deciding -/

/-- Joins two lists of rests without repetition. -/
def joinRests (xs ys : List (List Char)) : List (List Char) :=
  xs ++ ys.filter fun y => !xs.contains y

/-- Applies a step a number of times. -/
def steps (step : List (List Char) → List (List Char)) : Nat → List (List Char) → List (List Char)
  | 0, rests => rests
  | n + 1, rests => steps step n (step rests)

/-- All that can be reached by at most `n` steps; the search ends early when a step
    reaches nothing new. -/
def reach (step : List (List Char) → List (List Char)) :
    Nat → List (List Char) → List (List Char) → List (List Char)
  | 0, _, reached => reached
  | n + 1, frontier, reached =>
    let new := (step frontier).filter fun rest => !reached.contains rest
    if new.isEmpty then reached else reach step n new (reached ++ new)

/-- The length of the longest of some texts. -/
def longest (rests : List (List Char)) : Nat :=
  rests.foldl (fun n rest => max n rest.length) 0

/-- What may follow a character that passes a test. -/
def afterChar (p : Char → Bool) (rests : List (List Char)) : List (List Char) :=
  rests.filterMap fun
    | c :: rest => if p c then some rest else none
    | [] => none

/-- The rests that remain when a text of the shape is taken off the front. -/
def rests : Shape → List (List Char) → List (List Char)
  | literal text, from_ | word text, from_ =>
    from_.filterMap fun cs => if text.isPrefixOf cs then some (cs.drop text.length) else none
  | any, from_ => afterChar (· != '\n') from_
  | digit, from_ => afterChar isDecimalDigit from_
  | oneOf negated items, from_ => afterChar (classHolds negated items) from_
  | seq first second, from_ => rests second (rests first from_)
  | either first second, from_ => joinRests (rests first from_) (rests second from_)
  | group inner, from_ | declared _ inner, from_ => rests inner from_
  | times inner n, from_ =>
    let start := (steps (rests inner) n.least from_).eraseDups
    reach (rests inner) (n.extra?.getD (longest start)) start start

/-- The whole text has the shape. -/
def accepts (shape : Shape) (text : List Char) : Bool :=
  (shape.rests [text]).contains []

end Shape

end SerialNumbers
