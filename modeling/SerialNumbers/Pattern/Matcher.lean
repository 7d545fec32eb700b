/-
  SerialNumbers.Pattern.Matcher

  The shape of the numbers that a pattern can produce: literal text stands for
  itself, a token for the shape of its texts, and a conditional for either of
  its branches.
-/
import SerialNumbers.Pattern.Branches
import SerialNumbers.Variable.Resolution

namespace SerialNumbers

open Pattern

namespace Pattern

/-- A run of literal characters as a shape. -/
def literalShape (run : List Char) : List Shape :=
  if run.isEmpty then [] else [.literal run]

/-- The shapes of pieces, with the literal characters just before them. -/
def pieceShapes (shapeOf : Token → Except Failure Shape) (run : List Char) :
    List Piece → Except Failure (List Shape)
  | [] => .ok (literalShape run)
  | .char c :: rest => pieceShapes shapeOf (run ++ [c]) rest
  | .token t :: rest => do
    let shape ← shapeOf t
    let more ← pieceShapes shapeOf [] rest
    return literalShape run ++ shape :: more

/-- The shape of a text with tokens. -/
def textShape (shapeOf : Token → Except Failure Shape) (cs : List Char) :
    Except Failure Shape := do
  return Shape.seqAll (← pieceShapes shapeOf [] (pieces cs))

/-- The shape of a segment. -/
def segmentShape (shapeOf : Token → Except Failure Shape) : Segment → Except Failure Shape
  | .literal text => textShape shapeOf text
  | .conditional c => do
    let choice ← c.checked
    let whenTrue ← textShape shapeOf choice.whenTrue
    let whenFalse ← textShape shapeOf choice.whenFalse
    return .group (.either whenTrue whenFalse)

end Pattern

namespace Template

/-- The shape of the numbers of a template. -/
def shape (t : Template) (r : Registry) (padding : Int) : Except Failure Shape := do
  return Shape.seqAll (← t.segments.mapM (segmentShape (r.shape padding)))

end Template

namespace Registry

/-- The shape of the numbers of a pattern. -/
def patternShape (r : Registry) (pattern : String) (padding : Int) : Except Failure Shape := do
  (← Template.parse pattern).shape r padding

/-- The candidate could be a number of the pattern. -/
def isMatch (r : Registry) (pattern candidate : String) (padding : Int) :
    Except Failure Bool := do
  return (← r.patternShape pattern padding).accepts candidate.toList

/-- The expression for whole numbers of the pattern. -/
def anchoredSource (r : Registry) (pattern : String) (padding : Int) : Except Failure String := do
  return "^" ++ (← r.patternShape pattern padding).source ++ "$"

end Registry

end SerialNumbers
