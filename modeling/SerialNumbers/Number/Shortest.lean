/-
  SerialNumbers.Number.Shortest

  The text of a double: the fewest decimal digits that read back as the same
  double, and of those the nearest to it.  Notation is positional from one
  ten-thousandth up to sixteen digits before the point, else with an exponent.
-/
import SerialNumbers.Number.Double
import SerialNumbers.Number.Decimal

namespace SerialNumbers.Number.Double

/-! ## Digits -/

/-- The exponent of the leading decimal digit of `num / den`. -/
def leadingPlace (num den : Nat) : Int :=
  let guess : Int := ((Nat.toDigits 10 num).length : Int) - (Nat.toDigits 10 den).length
  let (p, q) := powerOfTen guess
  if num * q < den * p then guess - 1 else guess

/-- The two decimals of `count` digits next to a value, the nearer one first; each is a
    whole number times ten to the exponent that is returned. -/
def neighbours (num den count : Nat) : List Nat × Int :=
  let place := leadingPlace num den - (count - 1 : Int)
  let (p, q) := powerOfTen (-place)
  let below := num * p / (den * q)
  let nearest := roundHalfEven (num * p) (den * q)
  (if nearest == below then [below, below + 1] else [below + 1, below], place)

/-- The digits of a positive double and the exponent of the last one: the first count of
    digits at which a neighbour reads back. -/
def shortestDigits (mantissa : Nat) (exponent : Int) : Nat × Int :=
  let (num, den) := ratio mantissa exponent
  let attempt (count : Nat) : Option (Nat × Int) :=
    let (candidates, place) := neighbours num den count
    (candidates.find? fun units =>
      let (p, q) := powerOfTen place
      ofRatio false (units * p) q == .finite false mantissa exponent).map (·, place)
  ((List.range 17).findSome? fun k => attempt (k + 1)).getD (num / den, 0)

/-! ## Notation -/

/-- The positive exponents that are still written positionally. -/
def positionalDigits : Int := 16

/-- A whole number times ten to the exponent, written the way doubles are. -/
def layout (units : Nat) (place : Int) : String :=
  let digits := Nat.toDigits 10 units
  let trimmed := (digits.reverse.dropWhile (· == '0')).reverse
  let place := place + (digits.length - trimmed.length : Int)
  let point := place + trimmed.length
  if -4 < point && point ≤ positionalDigits then
    if point ≤ 0 then
      String.ofList ('0' :: '.' :: List.replicate point.natAbs '0' ++ trimmed)
    else if trimmed.length ≤ point.toNat then
      String.ofList (trimmed ++ List.replicate (point.toNat - trimmed.length) '0' ++ ['.', '0'])
    else
      String.ofList (trimmed.take point.toNat ++ '.' :: trimmed.drop point.toNat)
  else
    let exponent := point - 1
    let fraction := trimmed.drop 1
    String.ofList (trimmed.take 1 ++ (if fraction.isEmpty then [] else '.' :: fraction)) ++ "e" ++
      (if exponent < 0 then "-" else "+") ++ Text.natText 2 exponent.natAbs

/-- The text that reads back as the same double. -/
def text : Double → String
  | .nan => "nan"
  | .infinite negative => Decimal.signText negative ++ "inf"
  | .finite negative mantissa exponent =>
    Decimal.signText negative ++
      (if mantissa == 0 then "0.0"
       else
         let (units, place) := shortestDigits mantissa exponent
         layout units place)

/-- Digits in reverse order with a comma after every third one; `run` digits have been
    passed since the last comma. -/
def groupFrom (run : Nat) : List Char → List Char
  | [] => []
  | c :: rest => if run == 3 then ',' :: c :: groupFrom 1 rest else c :: groupFrom (run + 1) rest

/-- A whole number with a comma before every third digit from the right. -/
def grouped (digits : List Char) : List Char :=
  (groupFrom 0 digits.reverse).reverse

/-- A fixed number of decimal places, a half going to the even digit. -/
def fixedText (places : Nat) (separate : Bool) : Double → String
  | .nan => "nan"
  | .infinite negative => Decimal.signText negative ++ "inf"
  | .finite negative mantissa exponent =>
    let body := (Decimal.pointText (unitsAt places mantissa exponent) places).toList
    let whole := body.takeWhile (· != '.')
    let rest := body.dropWhile (· != '.')
    Decimal.signText negative ++
      String.ofList ((if separate then grouped whole else whole) ++ rest)

/-! ## Reading -/

/-- The double nearest to a decimal.  Exponents far out of range are cut off first, so
    that the powers of ten stay small. -/
def ofDecimal : Decimal → Double
  | .infinite negative => .infinite negative
  | .nan .. => .nan
  | .finite x =>
    if x.coefficient == 0 then .finite x.negative 0 minExponent
    else if 400 < x.adjusted then .infinite x.negative
    else if x.adjusted < -400 then .finite x.negative 0 minExponent
    else
      let (p, q) := powerOfTen x.exponent
      ofRatio x.negative (x.coefficient * p) q

end SerialNumbers.Number.Double
