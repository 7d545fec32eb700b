/-
  SerialNumbers.Text.Wrapped

  Breaking a line at blanks, so that no part is wider than a given width.  A
  word that is wider by itself is cut.
-/
import SerialNumbers.Text.Blank
import SerialNumbers.Text.Width

namespace SerialNumbers.Text.Wrapped

/-! ## Words -/

/-- The first word with the blanks around it, and what follows. -/
def splitWord (cs : List Char) : List Char × List Char :=
  let lead := cs.takeWhile isBlank
  let rest := cs.drop lead.length
  let letters := rest.takeWhile fun c => !isBlank c
  let rest := rest.drop letters.length
  let trail := rest.takeWhile isBlank
  (lead ++ letters ++ trail, rest.drop trail.length)

/-- The words of a line, each with the blanks around it. -/
def wordsFrom : Nat → List Char → List (List Char)
  | 0, _ => []
  | fuel + 1, cs =>
    let (word, rest) := splitWord cs
    if word.isEmpty then [] else word :: wordsFrom fuel rest

def words (cs : List Char) : List (List Char) :=
  wordsFrom cs.length cs

/-! ## Cutting -/

/-- Pieces of a word, each as wide as fits; `filled` and `piece` are of the piece that is
    being made. -/
def chopFrom (width filled : Nat) (piece : List Char) : List Char → List (List Char)
  | [] => if piece.isEmpty then [] else [piece]
  | c :: rest =>
    if width < filled + charWidth c && !piece.isEmpty then
      piece :: chopFrom width (charWidth c) [c] rest
    else chopFrom width (filled + charWidth c) (piece ++ [c]) rest

/-! ## Lines -/

/-- Puts a piece behind the last of some lines. -/
def extend (lines : List (List Char)) (piece : List Char) : List (List Char) :=
  match lines.reverse with
  | [] => [piece]
  | last :: before => (( last ++ piece) :: before).reverse

/-- Adds a word to lines: to the last one if it fits there, else to a line of its own. -/
def addWord (width : Nat) (lines : List (List Char)) (word : List Char) : List (List Char) :=
  let last := lines.getLast?.getD []
  let needed := textWidth (trimEnd word)
  if textWidth last + needed ≤ width then extend lines word
  else if width < needed then
    let pieces := chopFrom width 0 [] word
    if last.isEmpty then lines.dropLast ++ pieces else lines ++ pieces
  else if last.isEmpty then extend lines word
  else lines ++ [word]

/-- The line broken into lines of at most the given width. -/
def lines (width : Nat) (cs : List Char) : List (List Char) :=
  if cs.isEmpty then [[]] else (words cs).foldl (addWord width) []

/-- The line in the middle of a width. -/
def centred (width : Nat) (cs : List Char) : List Char :=
  let cs := trimEnd cs
  List.replicate ((width - textWidth cs) / 2) ' ' ++ cs

end SerialNumbers.Text.Wrapped
