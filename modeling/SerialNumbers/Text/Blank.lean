/-
  SerialNumbers.Text.Blank

  White space: the Unicode property together with the four information
  separators U+001C to U+001F.  Trimming takes it off both ends of a text.
-/
import SerialNumbers.Text.Span

namespace SerialNumbers.Text

/-- White space, and the information separators. -/
def blankSpans : List Span :=
  [(0x09, 0x0D), (0x1C, 0x20), (0x85, 0x85), (0xA0, 0xA0), (0x1680, 0x1680),
   (0x2000, 0x200A), (0x2028, 0x2029), (0x202F, 0x202F), (0x205F, 0x205F), (0x3000, 0x3000)]

def isBlank (c : Char) : Bool :=
  Span.anyHolds blankSpans c.toNat

/-! ## Trimming -/

/-- Takes the blanks off the front. -/
def trimStart (cs : List Char) : List Char :=
  cs.dropWhile isBlank

/-- Takes the blanks off the end. -/
def trimEnd (cs : List Char) : List Char :=
  (cs.reverse.dropWhile isBlank).reverse

/-- Takes the blanks off both ends. -/
def trim (cs : List Char) : List Char :=
  trimEnd (trimStart cs)

/-- Takes the blanks off both ends of a string. -/
def strip (s : String) : String :=
  String.ofList (trim s.toList)

/-- Nothing but blanks. -/
def allBlank (cs : List Char) : Bool :=
  cs.all isBlank

/-! ## Around numbers -/

/-- White space at the ends of a number in a text: blanks that are no separators. -/
def isPadding (c : Char) : Bool :=
  isBlank c && !(0x1C ≤ c.toNat && c.toNat ≤ 0x1F)

/-- The text of a number without white space at its ends. -/
def unpadded (s : String) : List Char :=
  ((s.toList.dropWhile isPadding).reverse.dropWhile isPadding).reverse

/-! ## Laws -/

@[simp] theorem trimStart_nil : trimStart [] = [] := rfl

@[simp] theorem trim_nil : trim [] = [] := rfl

theorem trimStart_cons_of_not_blank {c : Char} {cs : List Char} (h : isBlank c = false) :
    trimStart (c :: cs) = c :: cs := by
  simp [trimStart, h]

end SerialNumbers.Text
