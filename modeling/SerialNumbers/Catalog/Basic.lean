/-
  SerialNumbers.Catalog.Basic

  Pre-built patterns with a name, a category and tags, and the context that
  they expect; and what is made of a pattern for a customer.
-/
import SerialNumbers.Context
import SerialNumbers.Fields
import SerialNumbers.Pattern.Template

namespace SerialNumbers

open Text

/-- A pre-built pattern. -/
structure Prebuilt where
  id : String
  name : String
  description : String
  category : String
  /-- Search tags in small letters. -/
  tags : List String
  pattern : String
  padding : Int
  required : List String
  optional : List String
  /-- An example of the context that the pattern expects. -/
  example_ : List (String × Value)
deriving Repr

namespace Prebuilt

/-! ## Reading -/

/-- A small letter, and then small letters, digits and underscores. -/
def isId (s : String) : Bool :=
  match s.toList with
  | [] => false
  | c :: rest => c.isLower && rest.all fun c => c.isLower || c.isDigit || c == '_'

/-- Tags without blanks around them, in small letters; blank ones are left out. -/
def tidyTags (tags : List String) : List String :=
  (tags.filter fun tag => !allBlank tag.toList).map fun tag => lower (strip tag)

/-- Reads a pre-built pattern. -/
def ofFields (f : Fields) : Except Failure Prebuilt :=
  Checked.value <|
    Checked.of Prebuilt.mk
    |>.and (f.require "id" (.textWith isId))
    |>.and (f.require "name" (.textOf 1 none))
    |>.and (f.get "description" .text "")
    |>.and (f.get "category" .text "General")
    |>.and ((f.getList "tags" .text).map tidyTags)
    |>.and (f.require "pattern" (.textOf 1 (some Pattern.maxLength)))
    |>.and (f.get "padding" (.within 0 20) 5)
    |>.and (f.getList "required_context" .text)
    |>.and (f.getList "optional_context" .text)
    |>.and (f.get "example_context" .record [])

/-- The fields of a pre-built pattern by name. -/
def toFields (t : Prebuilt) : List (String × Value) :=
  let texts (l : List String) : Value := .list (l.map .text)
  [("id", .text t.id), ("name", .text t.name), ("description", .text t.description),
   ("category", .text t.category), ("tags", texts t.tags), ("pattern", .text t.pattern),
   ("padding", .whole t.padding), ("required_context", texts t.required),
   ("optional_context", texts t.optional), ("example_context", .record t.example_)]

/-! ## Questions -/

/-- No context is needed. -/
def isContextFree (t : Prebuilt) : Bool :=
  t.required.isEmpty

/-- One text occurs in another. -/
def occursIn (needle : List Char) : List Char → Bool
  | [] => needle.isEmpty
  | c :: rest => needle.isPrefixOf (c :: rest) || occursIn needle rest

/-- The query occurs in the identifier, the name, the description or a tag. -/
def answers (t : Prebuilt) (query : String) : Bool :=
  let needle := (lower (strip query)).toList
  (t.id :: lower t.name :: lower t.description :: t.tags).any fun s => occursIn needle s.toList

/-! ## Customizing -/

/-- What is changed in a pattern. -/
structure Wishes where
  before : Option String := none
  after : Option String := none
  separator : Option String := none
  width : Option Int := none

/-- Puts a separator in the place of every hyphen. -/
def separated (separator : String) (cs : List Char) : List Char :=
  cs.flatMap fun c => if c == '-' then separator.toList else [c]

/-- A token of the counter, bare or with a width in digits. -/
def isCounterToken (t : Pattern.Token) : Bool :=
  t.name == "COUNTER" &&
    (match t.parameter with
     | none => true
     | some p => !p.isEmpty && p.toList.all isDecimalDigit)

/-- Gives all tokens of the counter a width. -/
def widened (width : Int) (cs : List Char) : List Char :=
  (Pattern.pieces cs).flatMap fun
    | .char c => [c]
    | .token t =>
      if isCounterToken t then Pattern.Token.text ⟨"COUNTER", some (toString width)⟩ else t.text

/-- The pattern with some wishes fulfilled. -/
def customize (t : Prebuilt) (w : Wishes) : String :=
  let cs := t.pattern.toList
  let cs := w.separator.elim cs (separated · cs)
  let cs := w.width.elim cs (widened · cs)
  w.before.getD "" ++ String.ofList cs ++ w.after.getD ""

end Prebuilt

end SerialNumbers
