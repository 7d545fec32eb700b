/-
  SerialNumbers.Text.Span

  Sets of code points given as closed intervals: the form in which the
  Unicode character database lists its properties.
-/

namespace SerialNumbers.Text

/-- A closed interval of code points. -/
abbrev Span := Nat × Nat

/-- The code point lies in the interval. -/
def Span.holds (span : Span) (code : Nat) : Bool :=
  span.1 ≤ code && code ≤ span.2

/-- The code point lies in one of the intervals. -/
def Span.anyHolds (spans : List Span) (code : Nat) : Bool :=
  spans.any (·.holds code)

theorem Span.holds_iff {span : Span} {code : Nat} :
    span.holds code = true ↔ span.1 ≤ code ∧ code ≤ span.2 := by
  simp [Span.holds]

end SerialNumbers.Text
