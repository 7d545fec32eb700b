/-
  SerialNumbers.Number.Double

  Double-precision numbers, held exactly: a 53-bit mantissa times a power of
  two.  Every operation computes the exact result as a fraction and rounds it
  once, to the nearest double and on a tie to the even mantissa.
-/

namespace SerialNumbers.Number

/-- A double: `mantissa · 2 ^ exponent` with a sign, an infinity, or no number. -/
inductive Double where
  | finite (negative : Bool) (mantissa : Nat) (exponent : Int)
  | infinite (negative : Bool)
  | nan
deriving Repr, DecidableEq, Inhabited

/-! ## Rounding quotients -/

/-- The whole number nearest to `num / den`; a half goes to the even neighbour. -/
def roundHalfEven (num den : Nat) : Nat :=
  let quotient := num / den
  let twice := 2 * (num % den)
  if twice < den then quotient
  else if den < twice then quotient + 1
  else if quotient % 2 == 0 then quotient
  else quotient + 1

/-- `num / den` scaled by a power of two, as a quotient of whole numbers. -/
def scaleByTwo (num den : Nat) (shift : Int) : Nat × Nat :=
  if 0 ≤ shift then (num * Nat.pow 2 shift.toNat, den) else (num, den * Nat.pow 2 shift.natAbs)

namespace Double

/-- The least exponent of a mantissa. -/
def minExponent : Int := -1074

/-- The greatest exponent of a mantissa. -/
def maxExponent : Int := 971

/-- The bound on mantissas. -/
def mantissaBound : Nat := Nat.pow 2 53

def zero : Double := .finite false 0 minExponent

/-- The exponent at which the mantissa of `num / den` has 53 bits, or the least one. -/
def exponentFor (num den : Nat) : Int :=
  let guess : Int := (Nat.log2 num : Int) - (Nat.log2 den : Int) - 52
  let (n, d) := scaleByTwo num den (-guess)
  let fitted := if n < d * Nat.pow 2 52 then guess - 1 else guess
  max fitted minExponent

/-- The double nearest to `num / den`, with the sign given. -/
def ofRatio (negative : Bool) (num den : Nat) : Double :=
  if num == 0 || den == 0 then .finite negative 0 minExponent
  else
    let exponent := exponentFor num den
    let (n, d) := scaleByTwo num den (-exponent)
    let mantissa := roundHalfEven n d
    let (mantissa, exponent) :=
      if mantissa == mantissaBound then (mantissaBound / 2, exponent + 1)
      else (mantissa, exponent)
    if maxExponent < exponent then .infinite negative
    else .finite negative mantissa exponent

/-- The magnitude of a finite double as a quotient. -/
def ratio (mantissa : Nat) (exponent : Int) : Nat × Nat :=
  scaleByTwo mantissa 1 exponent

def ofNat (n : Nat) : Double :=
  ofRatio false n 1

def ofInt (n : Int) : Double :=
  ofRatio (n < 0) n.natAbs 1

/-- The double nearest to a signed fraction; zero has no sign. -/
def ofRat (q : Rat) : Double :=
  ofRatio (q.num < 0) q.num.natAbs q.den

/-- The exact value of a finite double. -/
def toRat? : Double → Option Rat
  | .finite negative mantissa exponent =>
    let (n, d) := ratio mantissa exponent
    some (mkRat (if negative then -(n : Int) else n) d)
  | _ => none

/-- The exact value; infinities and undefined results count as zero. -/
def toRat (x : Double) : Rat :=
  x.toRat?.getD 0

def isNegative : Double → Bool
  | .finite negative _ _ => negative
  | .infinite negative => negative
  | .nan => false

def isZero : Double → Bool
  | .finite _ mantissa _ => mantissa == 0
  | _ => false

def negate : Double → Double
  | .finite negative mantissa exponent => .finite (!negative) mantissa exponent
  | .infinite negative => .infinite (!negative)
  | .nan => .nan

/-! ## Arithmetic -/

/-- The product, rounded once. -/
def mul (x y : Double) : Double :=
  let negative := x.isNegative != y.isNegative
  match x, y with
  | .nan, _ | _, .nan => .nan
  | .infinite _, other | other, .infinite _ =>
    if other.isZero then .nan else .infinite negative
  | .finite _ m e, .finite _ n f =>
    let (num, den) := ratio (m * n) (e + f)
    ofRatio negative num den

/-- The quotient, rounded once. -/
def div (x y : Double) : Double :=
  let negative := x.isNegative != y.isNegative
  match x, y with
  | .nan, _ | _, .nan => .nan
  | .infinite _, .infinite _ => .nan
  | .infinite _, _ => .infinite negative
  | _, .infinite _ => .finite negative 0 minExponent
  | .finite _ m e, .finite _ n f =>
    if n == 0 then if m == 0 then .nan else .infinite negative
    else
      let (num, den) := scaleByTwo m n (e - f)
      ofRatio negative num den

/-- The sum, rounded once; a sum of zero is negative only if both terms are. -/
def add (x y : Double) : Double :=
  match x, y with
  | .nan, _ | _, .nan => .nan
  | .infinite s, .infinite t => if s == t then .infinite s else .nan
  | .infinite s, _ | _, .infinite s => .infinite s
  | .finite s _ _, .finite t _ _ =>
    let total := x.toRat + y.toRat
    if total.num == 0 then .finite (s && t) 0 minExponent else ofRat total

/-! ## Comparison and whole parts -/

/-- The order of two doubles; nothing is comparable with an undefined result. -/
def compare? (x y : Double) : Option Ordering :=
  match x, y with
  | .nan, _ | _, .nan => none
  | .infinite s, .infinite t => some (compare t s)
  | .infinite s, _ => some (if s then .lt else .gt)
  | _, .infinite s => some (if s then .gt else .lt)
  | .finite .., .finite .. =>
    let a := x.toRat
    let b := y.toRat
    some (if a < b then .lt else if a = b then .eq else .gt)

def lt (x y : Double) : Bool := x.compare? y == some .lt

def le (x y : Double) : Bool :=
  x.compare? y == some .lt || x.compare? y == some .eq

def equals (x y : Double) : Bool := x.compare? y == some .eq

/-- The whole number towards zero; infinities and undefined results have none. -/
def truncate? (x : Double) : Option Int :=
  x.toRat?.map fun q => Int.tdiv q.num q.den

/-- The least whole number that is not smaller. -/
def ceil? (x : Double) : Option Int :=
  x.toRat?.map Rat.ceil

/-- The square root of a non-negative fraction, rounded once.  The root is taken of a
    number of at least 108 bits, and its last bit is set when the root is not exact. -/
def sqrtOfRat (q : Rat) : Double :=
  let num := q.num.toNat
  let den := q.den
  let shift : Int := ((Nat.log2 num : Int) - (Nat.log2 den : Int) - 109) / 2
  let (n, d) := scaleByTwo num den (-2 * shift)
  let root := Nat.sqrt (n / d)
  let root := if root * root * d == n then root else if root % 2 == 0 then root + 1 else root
  let (rootNum, rootDen) := scaleByTwo root 1 shift
  ofRatio false rootNum rootDen

/-! ## Rounding to decimal places -/

/-- A power of ten as a quotient. -/
def powerOfTen (exponent : Int) : Nat × Nat :=
  if 0 ≤ exponent then (Nat.pow 10 exponent.toNat, 1) else (1, Nat.pow 10 exponent.natAbs)

/-- The nearest multiple of ten to minus `places`, counted in that unit; a half goes to
    the even multiple. -/
def unitsAt (places : Int) (mantissa : Nat) (exponent : Int) : Nat :=
  let (num, den) := ratio mantissa exponent
  let (p, q) := powerOfTen places
  roundHalfEven (num * p) (den * q)

/-- Rounds to decimal places, a half of the exact value going to the even digit. -/
def round (places : Int) : Double → Double
  | .finite negative mantissa exponent =>
    let units := unitsAt places mantissa exponent
    let (p, q) := powerOfTen (-places)
    ofRatio negative (units * p) q
  | other => other

end Double

end SerialNumbers.Number
