/-
  SerialNumbers.Text.Case

  Upper and lower case over all of Unicode.  A character may become several
  (the sharp s becomes `SS`, the dotted capital I a small i and a dot above),
  and the Greek capital sigma becomes a final sigma at the end of a word.
-/
import SerialNumbers.Text.CaseTable

namespace SerialNumbers.Text

/-! ## Upper case -/

/-- The upper-case form of one character. -/
def upperChars (c : Char) : List Char :=
  let code := c.toNat
  if code < 0x80 then
    [if 0x61 ≤ code && code ≤ 0x7A then Char.ofNat (code - 0x20) else c]
  else
    match upperSpecial.lookup code with
    | some codes => codes.map Char.ofNat
    | none => [Char.ofNat ((upperRuns.findSome? (·.image? code)).getD code)]

/-- The upper-case form of a text. -/
def upperList (cs : List Char) : List Char :=
  cs.flatMap upperChars

def upper (s : String) : String :=
  String.ofList (upperList s.toList)

/-! ## Lower case -/

/-- The lower-case form of one character that is no capital sigma. -/
def lowerChars (c : Char) : List Char :=
  let code := c.toNat
  if code < 0x80 then
    [if 0x41 ≤ code && code ≤ 0x5A then Char.ofNat (code + 0x20) else c]
  else if code == 0x130 then
    ['i', Char.ofNat 0x307]
  else
    [Char.ofNat ((lowerRuns.findSome? (·.image? code)).getD code)]

/-- The first character that is not passed over is a letter with case. -/
def meetsCased (cs : List Char) : Bool :=
  match cs.dropWhile fun c => Span.anyHolds caseIgnorableSpans c.toNat with
  | [] => false
  | c :: _ => Span.anyHolds casedSpans c.toNat

/-- Lower case, with the characters already passed at hand in reverse order. -/
def lowerFrom (before : List Char) : List Char → List Char
  | [] => []
  | c :: rest =>
    let image :=
      if c.toNat == 0x3A3 then
        [Char.ofNat (if meetsCased before && !meetsCased rest then 0x3C2 else 0x3C3)]
      else lowerChars c
    image ++ lowerFrom (c :: before) rest

/-- The lower-case form of a text. -/
def lowerList (cs : List Char) : List Char :=
  lowerFrom [] cs

def lower (s : String) : String :=
  String.ofList (lowerList s.toList)

/-! ## Laws -/

@[simp] theorem upperList_nil : upperList [] = [] := rfl

@[simp] theorem upperList_cons (c : Char) (cs : List Char) :
    upperList (c :: cs) = upperChars c ++ upperList cs := rfl

@[simp] theorem upperList_append (xs ys : List Char) :
    upperList (xs ++ ys) = upperList xs ++ upperList ys := by
  simp [upperList]

end SerialNumbers.Text
