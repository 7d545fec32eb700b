/-
  SerialNumbers.Journal.Message

  Messages with places for values.  A place starts with a percent sign and ends
  with a letter that says what kind of value it takes; between them may stand
  the name of a field, flags, a width and a precision.  Two percent signs are a
  percent sign.
-/
import SerialNumbers.Failure
import SerialNumbers.Value

namespace SerialNumbers.Journal

open Number Text

/-! ## Values at hand -/

/-- The values for the places of a message. -/
inductive Supply where
  /-- Values that are taken in turn. -/
  | inOrder (values : List Value)
  /-- The fields of a record, and the one value that may be taken without a name: the record
      itself, and after that the value of the field that was named last. -/
  | byName (entries : List (String × Value)) (last : Option Value)

namespace Supply

/-- A single record is taken by the names of its fields. -/
def ofValues : List Value → Supply
  | [.record []] => inOrder [.record []]
  | [.record entries] => byName entries (some (.record entries))
  | values => inOrder values

def next : Supply → Except Failure (Value × Supply)
  | inOrder (v :: rest) => .ok (v, inOrder rest)
  | byName entries (some v) => .ok (v, byName entries none)
  | _ => .error .badArguments

/-- Names a field, which makes its value the next one. -/
def name (entries : List (String × Value)) (field : String) : Except Failure Supply :=
  match entries.lookup field with
  | some v => .ok (byName entries (some v))
  | none => .error .absentKey

/-- All values were used; a record need not be. -/
def isUsed : Supply → Bool
  | inOrder values => values.isEmpty
  | byName .. => true

end Supply

/-! ## Places -/

/-- A place without the value that goes there. -/
structure Place where
  flags : List Char
  width : Nat
  precision : Option Nat
  kind : Char
deriving Repr

namespace Place

def isFlag (c : Char) : Bool :=
  ['-', '+', ' ', '#', '0'].contains c

/-- The letters that may stand before the kind and say nothing. -/
def isModifier (c : Char) : Bool :=
  ['h', 'l', 'L'].contains c

/-- The greatest width. -/
def maxWidth : Nat := Nat.pow 2 63 - 1

/-- The greatest precision. -/
def maxPrecision : Nat := Nat.pow 2 31 - 1

/-- The name of a field up to the bracket that closes it. -/
def fieldName? (depth : Nat) : List Char → Option (List Char × List Char)
  | [] => none
  | ')' :: rest =>
    match depth with
    | 0 => some ([], rest)
    | depth + 1 => (fieldName? depth rest).map fun (name, tail) => (')' :: name, tail)
  | c :: rest =>
    (fieldName? (if c == '(' then depth + 1 else depth) rest).map fun (name, tail) =>
      (c :: name, tail)

/-- Reads the name of a field, if there is one, and takes the field. -/
def readField (s : Supply) (cs : List Char) : Except Failure (Supply × List Char) :=
  match cs, s with
  | '(' :: _, .inOrder _ => .error .badArguments
  | '(' :: rest, .byName entries _ =>
    match fieldName? 0 rest with
    | some (name, tail) => do return (← Supply.name entries (String.ofList name), tail)
    | none => .error (.value .openPlaceName)
  | _, _ => .ok (s, cs)

/-- Reads a number, or a star for the next value; numbers beyond the bound are refused. -/
def readSize (bound : Nat) (excess : BadValue) (s : Supply) (cs : List Char) :
    Except Failure (Option Int × Supply × List Char) :=
  match cs with
  | '*' :: rest => do
    match ← s.next with
    | (.whole n, s) => if bound < n.natAbs then throw .timeOverflow else return (some n, s, rest)
    | (.truth b, s) => return (some (if b then 1 else 0), s, rest)
    | _ => throw .badArguments
  | _ =>
    let digits := cs.takeWhile Char.isDigit
    let rest := cs.drop digits.length
    if digits.isEmpty then .ok (none, s, rest)
    else
      let n := (digitsValue? digits).getD 0
      if bound < n then .error (.value excess) else .ok (some n, s, rest)

/-- Reads a precision behind its point. -/
def readPrecision (s : Supply) (cs : List Char) :
    Except Failure (Option Nat × Supply × List Char) :=
  match cs with
  | '.' :: rest => do
    let (precision, s, rest) ← readSize maxPrecision .excessPrecision s rest
    return (some (precision.getD 0).toNat, s, rest)
  | _ => .ok (none, s, cs)

/-- Reads what follows a percent sign. -/
def read (s : Supply) (cs : List Char) : Except Failure (Place × Supply × List Char) := do
  let (s, rest) ← readField s cs
  let flags := rest.takeWhile isFlag
  let (width, s, rest) ← readSize maxWidth .excessWidth s (rest.drop flags.length)
  let (precision, s, rest) ← readPrecision s rest
  let rest := match rest with
    | c :: tail => if isModifier c then tail else rest
    | [] => []
  let width := width.getD 0
  match rest with
  | [] => throw (.value .openPlace)
  | kind :: tail =>
    return (⟨if width < 0 then '-' :: flags else flags, width.natAbs, precision, kind⟩, s, tail)

def has (p : Place) (flag : Char) : Bool :=
  p.flags.contains flag

end Place

/-! ## Numbers -/

/-- A double with a number of significant digits, and the place of the first of them. -/
def significant (count mantissa : Nat) (exponent : Int) : Nat × Int :=
  let (num, den) := Double.ratio mantissa exponent
  let place := Double.leadingPlace num den
  let (p, q) := Double.powerOfTen ((count : Int) - 1 - place)
  let units := roundHalfEven (num * p) (den * q)
  if units == Nat.pow 10 count then (units / 10, place + 1) else (units, place)

/-- Takes away zeros at the end, and a point before them. -/
def withoutZeros (s : String) : String :=
  if s.toList.contains '.' then
    String.ofList ((s.toList.reverse.dropWhile (· == '0')).dropWhile (· == '.')).reverse
  else s

/-- Puts a point behind digits that have none, if there must be one. -/
def withPoint (needed : Bool) (s : String) : String :=
  if needed && !s.toList.contains '.' then s ++ "." else s

/-- Digits with one before the point, and an exponent. -/
def exponentText (keepZeros needsPoint : Bool) (places : Nat) (x : Double) : String :=
  let (units, place) := match x with
    | .finite _ mantissa exponent =>
      if mantissa == 0 then (0, 0) else significant (places + 1) mantissa exponent
    | _ => (0, 0)
  let digits := Decimal.pointText units places
  withPoint needsPoint (if keepZeros then digits else withoutZeros digits) ++ "e" ++
    (if place < 0 then "-" else "+") ++ natText 2 place.natAbs

/-- A number of significant digits, with an exponent if the number is large or small. -/
def generalText (keepZeros : Bool) (count : Nat) (x : Double) : String :=
  let place : Int := match x with
    | .finite _ mantissa exponent =>
      if mantissa == 0 then 0 else (significant count mantissa exponent).2
    | _ => 0
  if -4 ≤ place && place < count then
    let digits := x.fixedText ((count : Int) - 1 - place).toNat false
    withPoint keepZeros (if keepZeros then digits else withoutZeros digits)
  else exponentText keepZeros keepZeros (count - 1) x

/-- The magnitude of a double as a kind of place asks for it. -/
def realDigits (p : Place) (x : Double) : String :=
  let places := p.precision.getD 6
  match x with
  | .nan => "nan"
  | .infinite _ => "inf"
  | x =>
    match p.kind.toLower with
    | 'f' => withPoint (p.has '#') (x.fixedText places false)
    | 'e' => exponentText true (p.has '#') places x
    | _ => generalText (p.has '#') (max places 1) x

/-- The base of the digits that a kind of place asks for. -/
def baseOf (kind : Char) : Nat :=
  match kind.toLower with
  | 'x' => 16
  | 'o' => 8
  | _ => 10

/-- The magnitude of a whole number as a kind of place asks for it.  Only decimal digits are
    written up to so many. -/
def wholeDigits (p : Place) (n : Int) : Except Failure String := do
  let digits ← if baseOf p.kind == 10 then String.toList <$> numeral n.natAbs
    else pure (Nat.toDigits (baseOf p.kind) n.natAbs)
  let lead := if p.has '#' && baseOf p.kind != 10 then ['0', p.kind.toLower] else []
  return String.ofList
    (lead ++ List.replicate (p.precision.getD 0 - digits.length) '0' ++ digits)

/-! ## Values in places -/

/-- The whole number that a value is cut to, for a kind of place. -/
def wholeFor (kind : Char) : Value → Except Failure Int
  | .whole n => .ok n
  | .truth b => .ok (if b then 1 else 0)
  | .real x =>
    if baseOf kind != 10 then .error .badArguments
    else
      match x with
      | .finite .. => .ok (x.truncate?.getD 0)
      | .infinite _ => .error .timeOverflow
      | .nan => .error (.value .undefinedWhole)
  | .decimal d =>
    if baseOf kind != 10 then .error .badArguments
    else
      match d with
      | .finite x => .ok x.truncate
      | .infinite _ => .error .timeOverflow
      | .nan .. => .error (.value .undefinedDecimal)
  | _ => .error .badArguments

/-- A whole number as a double, if it is not beyond all doubles. -/
def realOfWhole (n : Int) : Except Failure Double :=
  match Double.ofInt n with
  | .infinite _ => .error .timeOverflow
  | x => .ok x

def realFor : Value → Except Failure Double
  | .real x => .ok x
  | .whole n => realOfWhole n
  | .truth b => .ok (Double.ofNat (if b then 1 else 0))
  | .decimal (.nan _ true _) => .error (.value .signalingDecimal)
  | .decimal d => .ok (Double.ofDecimal d)
  | _ => .error .badArguments

/-- A character that is given by itself or by its number. -/
def charFor : Value → Except Failure String
  | .text s => if s.length == 1 then .ok s else .error .badArguments
  | .truth b => .ok (String.singleton (Char.ofNat (if b then 1 else 0)))
  | .whole n =>
    if 0 ≤ n && n < 0x110000 then .ok (String.singleton (Char.ofNat n.toNat))
    else .error .timeOverflow
  | _ => .error .badArguments

/-- A text set to a width, on the left if the place says so. -/
def padded (p : Place) (s : String) : String :=
  let free := List.replicate (p.width - s.length) ' '
  String.ofList (if p.has '-' then s.toList ++ free else free ++ s.toList)

/-- A number with its sign, set to a width with blanks or zeros. -/
def signed (p : Place) (negative : Bool) (digits : String) : String :=
  let sign := if negative then "-" else if p.has '+' then "+" else if p.has ' ' then " " else ""
  let digits := if p.kind.isUpper then digits.toUpper else digits
  if p.has '0' && !p.has '-' then sign ++ zeroFill (p.width - sign.length) digits
  else padded p (sign ++ digits)

/-- What is put in a place for a value; `index` is the position of the letter that ends the
    place. -/
def placed (p : Place) (index : Nat) (v : Value) : Except Failure String := do
  let cut (s : String) : String := p.precision.elim s fun n => String.ofList (s.toList.take n)
  match p.kind with
  | 's' => return padded p (cut (← v.shown))
  | 'r' => return padded p (cut (← v.literal))
  | 'a' => return padded p (cut (asciiText (← v.literal)))
  | 'c' => return padded p (← charFor v)
  | kind =>
    if ['d', 'i', 'u', 'x', 'X', 'o'].contains kind then
      let n ← wholeFor kind v
      return signed p (n < 0) (← wholeDigits p n)
    else if ['f', 'F', 'e', 'E', 'g', 'G'].contains kind then
      let x ← realFor v
      let size := if x.isNegative then x.negate else x
      return signed p x.isNegative (realDigits p size)
    else throw (.value (.placeKind kind index))

/-! ## Messages -/

/-- Fills the places of a message of the given length, reading at most `fuel` parts. -/
def fillFrom (length : Nat) : Nat → Supply → List Char → Except Failure (List Char)
  | 0, _, _ => .ok []
  | fuel + 1, s, cs =>
    match cs with
    | [] => if s.isUsed then .ok [] else .error .badArguments
    | '%' :: '%' :: rest => do return '%' :: (← fillFrom length fuel s rest)
    | '%' :: rest => do
      let (p, s, tail) ← Place.read s rest
      let (v, s) ← s.next
      let text ← placed p (length - tail.length - 1) v
      return text.toList ++ (← fillFrom length fuel s tail)
    | c :: rest => do return c :: (← fillFrom length fuel s rest)

/-- The message with values in its places; without values nothing is a place. -/
def filled (message : String) (values : List Value) : Except Failure String :=
  let cs := message.toList
  if values.isEmpty then .ok message
  else String.ofList <$> fillFrom cs.length (cs.length + 1) (.ofValues values) cs

end SerialNumbers.Journal
