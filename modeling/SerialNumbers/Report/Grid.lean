/-
  SerialNumbers.Report.Grid

  Tables of texts with rounded corners, a title over them and perhaps a caption
  below.  Every column is as wide as its widest text.
-/
import SerialNumbers.Text.Wrapped

namespace SerialNumbers.Report

open Text

/-- Where the texts of a column stand in it. -/
inductive Side where
  | left
  | middle
  | right
deriving Repr, DecidableEq

/-- The lines of a text in a table. -/
abbrev Cell := List (List Char)

structure Column where
  heading : Cell
  side : Side
deriving Repr

structure Grid where
  title : String
  caption : Option String
  columns : List Column
  showsHeadings : Bool
  rows : List (List Cell)
deriving Repr

namespace Grid

/-! ## Cells -/

/-- The lines of a text. -/
def cell (s : String) : Cell :=
  s.toList.splitOn '\n'

/-- The width of the widest line. -/
def cellWidth (c : Cell) : Nat :=
  (c.map textWidth).foldl max 0

def blanks (n : Nat) : List Char := List.replicate n ' '

/-- A line set to one side of a width. -/
def place (side : Side) (width : Nat) (line : List Char) : List Char :=
  let free := width - textWidth line
  match side with
  | .left => line ++ blanks free
  | .right => blanks free ++ line
  | .middle => blanks (free / 2) ++ line ++ blanks (free - free / 2)

/-! ## Columns -/

/-- The cells of each column of some rows. -/
def byColumn (columns : List Column) (rows : List (List Cell)) : List (List Cell) :=
  (List.range columns.length).map fun i => rows.map fun row => row.getD i []

/-- The rows that are shown, with the headings first if they are. -/
def shownRows (g : Grid) : List (List Cell) :=
  if g.showsHeadings then g.columns.map (·.heading) :: g.rows else g.rows

def widths (g : Grid) : List Nat :=
  (byColumn g.columns g.shownRows).map fun cells => (cells.map cellWidth).foldl max 0

/-- The width of the whole table: every column has a blank on both sides and a line
    behind it. -/
def width (g : Grid) : Nat :=
  1 + (g.widths.map (· + 3)).foldr (· + ·) 0

/-! ## Lines -/

/-- A line across the table. -/
def rule (g : Grid) (first between last : Char) : List Char :=
  first :: [between].intercalate (g.widths.map fun w => List.replicate (w + 2) '─') ++ [last]

/-- The lines of a row: those of its cells side by side. -/
def rowLines (g : Grid) (row : List Cell) : List (List Char) :=
  let height := (row.map (·.length)).foldl max 1
  (List.range height).map fun i =>
    let parts := (g.columns.zip g.widths).zip row |>.map fun ((column, w), c) =>
      ' ' :: place column.side w (c.getD i []) ++ [' ']
    '│' :: ['│'].intercalate parts ++ ['│']

/-- The cells of the headings, all as high as the highest, with their texts at the
    bottom. -/
def headingRow (g : Grid) : List Cell :=
  let height := (g.columns.map (·.heading.length)).foldl max 1
  g.columns.map fun c => List.replicate (height - c.heading.length) [] ++ c.heading

/-- A text in the middle of the width of the table. -/
def annotation (g : Grid) (s : String) : List (List Char) :=
  if s.isEmpty then []
  else (cell s).flatMap fun line => (Wrapped.lines g.width line).map (Wrapped.centred g.width)

/-- The lines of the table. -/
def lines (g : Grid) : List String :=
  let top := g.rule '╭' '┬' '╮'
  let headings :=
    if g.showsHeadings then g.rowLines g.headingRow ++ [g.rule '├' '┼' '┤'] else []
  let bottom := g.rule '╰' '┴' '╯'
  (g.annotation g.title ++ [top] ++ headings ++ g.rows.flatMap g.rowLines ++ [bottom] ++
    (g.caption.map g.annotation).getD []).map String.ofList

end Grid

end SerialNumbers.Report
