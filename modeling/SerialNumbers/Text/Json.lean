/-
  SerialNumbers.Text.Json

  Values as JSON text in ASCII: on one line with a space behind commas and
  colons, or over several lines with an indent of two.  Values that JSON does
  not know are written as they are shown.
-/
import SerialNumbers.Value

namespace SerialNumbers.Json

open Text Number Time

/-! ## Texts -/

/-- A unit of sixteen bits as an escape. -/
def unitEscape (unit : Nat) : List Char :=
  '\\' :: 'u' :: hexText 4 unit

/-- The characters that have a letter as their escape. -/
def letterEscape? (c : Char) : Option Char :=
  match c with
  | '"' => some '"'
  | '\\' => some '\\'
  | '\n' => some 'n'
  | '\r' => some 'r'
  | '\t' => some 't'
  | '\x08' => some 'b'
  | '\x0c' => some 'f'
  | _ => none

/-- One character of a text; beyond the first plane it takes two units. -/
def escaped (c : Char) : List Char :=
  match letterEscape? c with
  | some letter => ['\\', letter]
  | none =>
    let n := c.toNat
    if 0x20 ≤ n && n < 0x7F then [c]
    else if n < 0x10000 then unitEscape n
    else
      let rest := n - 0x10000
      unitEscape (0xD800 + rest / 0x400) ++ unitEscape (0xDC00 + rest % 0x400)

/-- A text between double quotes. -/
def quoted (s : String) : String :=
  String.ofList ('"' :: s.toList.flatMap escaped ++ ['"'])

/-- A double; infinities and undefined results have their own words. -/
def numberText (x : Number.Double) : String :=
  match x with
  | .nan => "NaN"
  | .infinite negative => if negative then "-Infinity" else "Infinity"
  | x => x.text

/-! ## Layout -/

/-- How the parts of lists and records are set apart. -/
structure Layout where
  /-- Behind a comma, at a depth. -/
  between : Nat → String
  /-- Inside the opening and before the closing bracket. -/
  opening : Nat → String
  closing : Nat → String

/-- All on one line. -/
def Layout.line : Layout :=
  ⟨fun _ => " ", fun _ => "", fun _ => ""⟩

/-- A new line with an indent of two for every depth. -/
def newLine (depth : Nat) : String :=
  String.ofList ('\n' :: List.replicate (2 * depth) ' ')

/-- One item a line. -/
def Layout.indented : Layout :=
  ⟨fun depth => newLine (depth + 1), fun depth => newLine (depth + 1), newLine⟩

/-- Parts between brackets. -/
def bracketed (l : Layout) (depth : Nat) (first last : String) (parts : List String) : String :=
  if parts.isEmpty then first ++ last
  else
    first ++ l.opening depth ++ ("," ++ l.between depth).intercalate parts ++ l.closing depth ++
      last

/-! ## Values -/

mutual

/-- The text of a value at a depth. -/
def textAt (l : Layout) (depth : Nat) : Value → Except Failure String
  | .none => .ok "null"
  | .truth b => .ok (if b then "true" else "false")
  | .whole n => numeral n
  | .real x => .ok (numberText x)
  | .text s => .ok (quoted s)
  | .decimal d => .ok (quoted d.text)
  | .date d => .ok (quoted (Moment.dateText d))
  | .moment m => .ok (quoted (m.textWith " "))
  | .list items => bracketed l depth "[" "]" <$> itemTexts l (depth + 1) items
  | .record entries => bracketed l depth "\x7b" "\x7d" <$> entryTexts l (depth + 1) entries

def itemTexts (l : Layout) (depth : Nat) : List Value → Except Failure (List String)
  | [] => .ok []
  | v :: rest => do
    let first ← textAt l depth v
    return first :: (← itemTexts l depth rest)

def entryText (l : Layout) (depth : Nat) : String × Value → Except Failure String
  | (k, v) => do return quoted k ++ ": " ++ (← textAt l depth v)

def entryTexts (l : Layout) (depth : Nat) : List (String × Value) → Except Failure (List String)
  | [] => .ok []
  | e :: rest => do
    let first ← entryText l depth e
    return first :: (← entryTexts l depth rest)

end

mutual

/-- The value with the keys of all records in order. -/
def sorted : Value → Value
  | .list items => .list (sortedItems items)
  | .record entries => .record ((sortedEntries entries).mergeSort fun a b => !(b.1 < a.1))
  | other => other

def sortedItems : List Value → List Value
  | [] => []
  | v :: rest => sorted v :: sortedItems rest

def sortedEntry : String × Value → String × Value
  | (k, v) => (k, sorted v)

def sortedEntries : List (String × Value) → List (String × Value)
  | [] => []
  | e :: rest => sortedEntry e :: sortedEntries rest

end

/-- The text of a value on one line. -/
def lineText (v : Value) : Except Failure String :=
  textAt .line 0 v

/-- The text of a value over several lines. -/
def indentedText (v : Value) : Except Failure String :=
  textAt .indented 0 v

end SerialNumbers.Json
