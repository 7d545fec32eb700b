/-
  SerialNumbers.Number.Sample

  Samples of measured numbers: median, mean, standard deviation, extremes and
  percentiles.  Mean and deviation are computed exactly and rounded once; the
  median of an even number of doubles is half their rounded sum.
-/
import SerialNumbers.Number.Double

namespace SerialNumbers.Number

/-- A number that was counted or measured. -/
inductive Amount where
  | whole (n : Int)
  | real (x : Double)
deriving Repr, DecidableEq

namespace Amount

def toDouble : Amount → Double
  | whole n => Double.ofInt n
  | real x => x

/-- The exact value; infinities and undefined results count as zero. -/
def toRat : Amount → Rat
  | whole n => n
  | real x => x.toRat

def isWhole : Amount → Bool
  | whole _ => true
  | real _ => false

def isNegative : Amount → Bool
  | whole n => n < 0
  | real x => x.isNegative

/-- Exact order; infinities lie beyond all other numbers. -/
def lt (a b : Amount) : Bool :=
  match a, b with
  | real (.infinite s), real (.infinite t) => s && !t
  | real (.infinite s), _ => s
  | _, real (.infinite s) => !s
  | a, b => a.toRat < b.toRat

/-- Rounds to decimal places; whole numbers stay as they are. -/
def round (places : Int) : Amount → Amount
  | whole n => whole n
  | real x => real (x.round places)

/-- The whole number towards zero. -/
def truncate : Amount → Int
  | whole n => n
  | real x => x.truncate?.getD 0

end Amount

namespace Sample

def sorted (xs : List Amount) : List Amount :=
  xs.mergeSort fun a b => !b.lt a

/-- The quotient of whole numbers, rounded once. -/
def quotient (a b : Int) : Double :=
  Double.ofRat (mkRat a b.natAbs)

/-- The number half way between two. -/
def middle (a b : Amount) : Amount :=
  match a, b with
  | .whole a, .whole b => .real (quotient (a + b) 2)
  | a, b => .real ((a.toDouble.add b.toDouble).div (Double.ofNat 2))

/-- The middle number of a sample that is not empty. -/
def median (xs : List Amount) : Amount :=
  let ys := sorted xs
  let half := ys.length / 2
  let upper := ys.getD half (.whole 0)
  if ys.length % 2 == 1 then upper else middle (ys.getD (half - 1) (.whole 0)) upper

def sum (xs : List Amount) : Rat :=
  xs.foldl (fun total x => total + x.toRat) 0

/-- The mean; of whole numbers it is whole if it can be. -/
def mean (xs : List Amount) : Amount :=
  let q := sum xs / xs.length
  if xs.all Amount.isWhole && q.den == 1 then .whole q.num else .real (Double.ofRat q)

/-- The deviation of a sample of at least two numbers. -/
def deviation (xs : List Amount) : Double :=
  let n : Rat := xs.length
  let m := sum xs / n
  let squares := xs.foldl (fun total x => total + (x.toRat - m) * (x.toRat - m)) 0
  Double.sqrtOfRat (squares / (n - 1))

/-- The first of the least numbers. -/
def least (xs : List Amount) : Amount :=
  xs.tail.foldl (fun a b => if b.lt a then b else a) (xs.headD (.whole 0))

/-- The first of the greatest numbers. -/
def greatest (xs : List Amount) : Amount :=
  xs.tail.foldl (fun a b => if a.lt b then b else a) (xs.headD (.whole 0))

/-- The number of nearest rank for a percentage; zero for an empty sample. -/
def percentile (xs : List Amount) (percentage : Double) : Amount :=
  if xs.isEmpty then .real Double.zero
  else
    let share := (percentage.div (Double.ofNat 100)).mul (Double.ofNat xs.length)
    let rank := max 1 ((share.ceil?.getD 1).toNat)
    (sorted xs).getD (min rank xs.length - 1) (.whole 0)

end Sample

end SerialNumbers.Number
