/-
  SerialNumbers.Number.Decimal

  Exact decimal numbers: a whole coefficient times a power of ten.  Reading
  accepts a sign, a point, an exponent, digits of any script and underscores;
  comparison is exact whatever the exponents, and the two printed forms keep
  the digits that were written.
-/
import SerialNumbers.Text.Blank
import SerialNumbers.Text.Case
import SerialNumbers.Text.Digit

namespace SerialNumbers.Number

open SerialNumbers.Text

/-- A finite decimal: the coefficient times ten to the exponent, with a sign. -/
structure Scaled where
  negative : Bool
  coefficient : Nat
  exponent : Int
deriving Repr, DecidableEq, Inhabited

/-- A decimal number, an infinity, or no number with an optional diagnostic. -/
inductive Decimal where
  | finite (value : Scaled)
  | infinite (negative : Bool)
  | nan (negative signaling : Bool) (payload : Nat)
deriving Repr, DecidableEq

/-! ## Comparison -/

namespace Scaled

/-- The number of decimal digits of the coefficient; zero has one. -/
def digitCount (x : Scaled) : Nat :=
  (Nat.toDigits 10 x.coefficient).length

/-- The exponent of the leading digit. -/
def adjusted (x : Scaled) : Int :=
  x.exponent + (x.digitCount - 1 : Int)

/-- Compares two non-zero magnitudes: the place of the leading digit decides, and
    only numbers that lead at the same place are brought to one exponent. -/
def compareMagnitude (x y : Scaled) : Ordering :=
  match compare x.adjusted y.adjusted with
  | .eq =>
    if y.exponent ≤ x.exponent then
      compare (x.coefficient * Nat.pow 10 (x.exponent - y.exponent).toNat) y.coefficient
    else
      compare x.coefficient (y.coefficient * Nat.pow 10 (y.exponent - x.exponent).toNat)
  | order => order

/-- The sign as a number; zero has none. -/
def sign (x : Scaled) : Int :=
  if x.coefficient == 0 then 0 else if x.negative then -1 else 1

/-- Compares the values of two decimals, however they are written. -/
def order (x y : Scaled) : Ordering :=
  match compare x.sign y.sign with
  | .eq =>
    if x.sign == 0 then .eq
    else if x.negative then compareMagnitude y x
    else compareMagnitude x y
  | order => order

def lt (x y : Scaled) : Bool := x.order y == .lt

def le (x y : Scaled) : Bool := x.order y != .gt

/-- There is nothing but zeros behind the point. -/
def isWhole (x : Scaled) : Bool :=
  0 ≤ x.exponent || x.coefficient == 0 || x.digitCount > x.exponent.natAbs &&
    x.coefficient % Nat.pow 10 x.exponent.natAbs == 0

/-- The whole number that is left without the places behind the point. -/
def truncate (x : Scaled) : Int :=
  let size : Nat :=
    if 0 ≤ x.exponent then x.coefficient * Nat.pow 10 x.exponent.toNat
    else x.coefficient / Nat.pow 10 x.exponent.natAbs
  if x.negative then -(size : Int) else size

end Scaled

/-! ## Reading -/

namespace Decimal

/-- The largest exponent that a leading digit may have. -/
def maxExponent : Int := 999999999999999999

/-- The smallest exponent that a last digit may have. -/
def minExponent : Int := -(2 * maxExponent - 1)

/-- The exponents fit, so that the written value is held exactly. -/
def inRange (x : Scaled) : Bool :=
  minExponent ≤ x.exponent &&
    (if x.coefficient == 0 then x.exponent else x.adjusted) ≤ maxExponent

/-- Digits of every script as ASCII digits, underscores dropped and letters in lower
    case; nothing if another character beyond ASCII occurs. -/
def asciiForm? (cs : List Char) : Option (List Char) :=
  (trim cs).filter (· != '_') |>.mapM fun c =>
    if c.toNat < 0x80 then some c.toLower
    else (digitValue? c).map fun d => Char.ofNat (0x30 + d)

/-- A non-empty run of digits and its value. -/
def wholeNumber? (cs : List Char) : Option Nat :=
  if cs.isEmpty then none else digitsValue? cs

/-- An optional sign in front: whether it is a minus, and what follows. -/
def signed (cs : List Char) : Bool × List Char :=
  match cs with
  | '-' :: rest => (true, rest)
  | '+' :: rest => (false, rest)
  | _ => (false, cs)

/-- What may follow the digits: nothing, or an exponent. -/
def exponentPart? (cs : List Char) : Option Int :=
  match cs with
  | [] => some 0
  | 'e' :: rest =>
    let (negative, digits) := signed rest
    (wholeNumber? digits).map fun n => if negative then -(n : Int) else n
  | _ => none

/-- The unsigned digits of a number, with point and exponent. -/
def digitsPart? (negative : Bool) (cs : List Char) : Option Decimal := do
  let whole := cs.takeWhile Char.isDigit
  let rest := cs.dropWhile Char.isDigit
  let (fraction, rest) :=
    match rest with
    | '.' :: tail => (tail.takeWhile Char.isDigit, tail.dropWhile Char.isDigit)
    | _ => ([], rest)
  let coefficient ← wholeNumber? (whole ++ fraction)
  let exponent ← exponentPart? rest
  let value : Scaled := ⟨negative, coefficient, exponent - fraction.length⟩
  if inRange value then some (.finite value) else none

/-- The diagnostic digits after `nan`. -/
def payload? (cs : List Char) : Option Nat :=
  digitsValue? cs

/-- Reads a decimal number. -/
def read? (text : String) : Option Decimal := do
  let (negative, body) := signed (← asciiForm? text.toList)
  if body == "inf".toList || body == "infinity".toList then
    return .infinite negative
  else if "nan".toList.isPrefixOf body then
    return .nan negative false (← payload? (body.drop 3))
  else if "snan".toList.isPrefixOf body then
    return .nan negative true (← payload? (body.drop 4))
  else
    digitsPart? negative body

/-- Reads a number that is neither infinite nor undefined. -/
def readFinite? (text : String) : Option Scaled :=
  match read? text with
  | some (.finite value) => some value
  | _ => none

/-! ## Printing -/

def signText (negative : Bool) : String :=
  if negative then "-" else ""

/-- The digits of a coefficient with a point before the last `places` of them. -/
def pointText (coefficient places : Nat) : String :=
  let digits := Nat.toDigits 10 coefficient
  if places == 0 then String.ofList digits
  else
    let padded := List.replicate (places + 1 - digits.length) '0' ++ digits
    String.ofList (padded.take (padded.length - places) ++ '.' ::
      padded.drop (padded.length - places))

def specialText : Decimal → String
  | .infinite negative => signText negative ++ "Infinity"
  | .nan negative signaling payload =>
    signText negative ++ (if signaling then "sNaN" else "NaN") ++
      (if payload == 0 then "" else toString payload)
  | .finite _ => ""

/-- Positional notation, without an exponent. -/
def fixedText : Decimal → String
  | .finite x =>
    signText x.negative ++
      (if 0 < x.exponent then pointText (x.coefficient * Nat.pow 10 x.exponent.toNat) 0
       else pointText x.coefficient x.exponent.natAbs)
  | special => special.specialText

/-- The number of characters of the positional notation. -/
def fixedSize : Decimal → Nat
  | .finite x =>
    (signText x.negative).length +
      (if 0 < x.exponent then if x.coefficient == 0 then 1 else x.digitCount + x.exponent.toNat
       else if x.exponent == 0 then x.digitCount
       else max x.digitCount (x.exponent.natAbs + 1) + 1)
  | special => special.specialText.length

/-- The written form: positional while the exponent is not positive and at most five
    zeros follow the point, otherwise one digit before the point and an exponent. -/
def text : Decimal → String
  | .finite x =>
    if x.exponent ≤ 0 && -6 ≤ x.adjusted then
      signText x.negative ++ pointText x.coefficient x.exponent.natAbs
    else
      signText x.negative ++ pointText x.coefficient (x.digitCount - 1) ++ "E" ++
        (if x.adjusted < 0 then "-" else "+") ++ toString x.adjusted.natAbs
  | special => special.specialText

end Decimal

end SerialNumbers.Number
