/-
  SerialNumbers.CommandLine.Arguments

  Splitting the words of a command line into positional texts and options.
  Options and positional texts may be mixed; two hyphens end the options.  A
  long option takes its value behind an equality sign or as the next word, a
  short one as the rest of its word or as the next word.
-/
import SerialNumbers.Text.Blank
import SerialNumbers.Text.Digit

namespace SerialNumbers.CommandLine

open Text

/-! ## Options -/

/-- An option of a command. -/
structure Switch where
  /-- The ways to write it. -/
  names : List String
  /-- What it sets. -/
  key : String
  /-- The text that it stands for; an option without one takes a value. -/
  standsFor : Option String := none
deriving Repr

/-- What a command accepts. -/
structure Usage where
  /-- How many positional texts there must be. -/
  required : Nat
  /-- How many more there may be. -/
  optional : Nat
  switches : List Switch
deriving Repr

/-- What was given to a command. -/
structure Arguments where
  words : List String
  /-- Keys of options with their texts, in order. -/
  options : List (String × String)
deriving Repr, Inhabited

namespace Arguments

def empty : Arguments := ⟨[], []⟩

def addWord (a : Arguments) (word : String) : Arguments :=
  { a with words := word :: a.words }

def addOption (a : Arguments) (key text : String) : Arguments :=
  { a with options := (key, text) :: a.options }

end Arguments

namespace Usage

def switch? (u : Usage) (name : String) : Option Switch :=
  u.switches.find? (·.names.contains name)

/-! ## Words -/

/-- A word that is an option: it starts with a hyphen and goes on. -/
def isOption (word : String) : Bool :=
  match word.toList with
  | '-' :: _ :: _ => true
  | _ => false

/-- A long option with its value, if that is in the same word; or a short option, with the
    rest of its word. -/
def split? (u : Usage) (word : String) : Option (Switch × Option String) :=
  let cs := word.toList
  let name := cs.takeWhile (· != '=')
  let value := if name.length < cs.length then some (String.ofList (cs.drop (name.length + 1)))
    else none
  let isLong := "--".toList.isPrefixOf cs
  if isLong then (u.switch? (String.ofList name)).map (·, value)
  else
    let rest := cs.drop 2
    (u.switch? (String.ofList (cs.take 2))).map
      (·, if rest.isEmpty then none else some (String.ofList rest))

/-- Reads words; none if they are not what the command accepts. -/
def readFrom (u : Usage) (a : Arguments) : List String → Option Arguments
  | [] => some a
  | "--" :: rest => some (rest.foldl Arguments.addWord a)
  | word :: rest =>
    if isOption word then
      match u.split? word with
      | none => none
      | some (s, value) =>
        match s.standsFor, value with
        | some text, none => readFrom u (a.addOption s.key text) rest
        | some _, some _ => none
        | none, some text => readFrom u (a.addOption s.key text) rest
        | none, none =>
          match rest with
          | [] => none
          | text :: rest => readFrom u (a.addOption s.key text) rest
    else readFrom u (a.addWord word) rest

/-- Reads the words of a command; none if they are not what it accepts. -/
def read? (u : Usage) (argv : List String) : Option Arguments :=
  match u.readFrom .empty argv with
  | none => none
  | some a =>
    if u.required ≤ a.words.length && a.words.length ≤ u.required + u.optional then
      some ⟨a.words.reverse, a.options.reverse⟩
    else none

end Usage

/-! ## Values -/

/-- A whole number: a sign and decimal digits with single underscores between them. -/
def wholeOf? (text : String) : Option Int :=
  let cs := unpadded text
  let (negative, digits) := match cs with
    | '-' :: rest => (true, rest)
    | '+' :: rest => (false, rest)
    | _ => (false, cs)
  let groups := digits.splitOn '_'
  if groups.all fun g => !g.isEmpty && g.all isDecimalDigit then
    (digitsValue? groups.flatten).map fun n => if negative then -(n : Int) else n
  else none

namespace Arguments

def word (a : Arguments) (i : Nat) : String :=
  a.words.getD i ""

/-- The text of an option; the last one counts. -/
def text? (a : Arguments) (key : String) : Option String :=
  a.options.reverse.lookup key

/-- All texts of an option. -/
def texts (a : Arguments) (key : String) : List String :=
  (a.options.filter (·.1 == key)).map (·.2)

/-- A text read by a function that may refuse it. -/
def read? {α : Type} (a : Arguments) (key : String) (f : String → Option α) :
    Option (Option α) :=
  match a.text? key with
  | none => some none
  | some text => (f text).map some

end Arguments

/-- A whole number between bounds. -/
def within? (least : Int) (most : Option Int) (text : String) : Option Int :=
  (wholeOf? text).filter fun n => least ≤ n && (most.map fun m => decide (n ≤ m)).getD true

end SerialNumbers.CommandLine
