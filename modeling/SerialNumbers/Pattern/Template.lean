/-
  SerialNumbers.Pattern.Template

  A pattern split into literal text and conditional segments.  A conditional
  starts with an open brace and a question mark and ends at the brace that
  closes it, braces inside being counted; one that is never closed is literal
  text to the end of the pattern, and is noted.
-/
import SerialNumbers.Failure
import SerialNumbers.Pattern.Token
import SerialNumbers.Text.Case

namespace SerialNumbers

namespace Pattern

/-- The longest pattern, and the longest serial number. -/
def maxLength : Nat := 255

/-! ## Segments -/

/-- A conditional: what stands between its opening and its closing brace, and the
    position in the pattern where it starts. -/
structure Conditional where
  body : List Char
  start : Nat
deriving Repr, DecidableEq

namespace Conditional

/-- The conditional as it is written. -/
def raw (c : Conditional) : List Char :=
  '\x7b' :: '?' :: c.body ++ ['\x7d']

/-- The position after the closing brace. -/
def stop (c : Conditional) : Nat :=
  c.start + c.raw.length

end Conditional

inductive Segment where
  | literal (text : List Char)
  | conditional (c : Conditional)
deriving Repr, DecidableEq

def Segment.text : Segment → List Char
  | .literal text => text
  | .conditional c => c.raw

/-! ## Splitting -/

/-- Splits at the brace that closes the innermost of `depth + 1` open ones. -/
def splitClose (depth : Nat) : List Char → Option (List Char × List Char)
  | [] => none
  | c :: rest =>
    if c == '\x7d' then
      match depth with
      | 0 => some ([], rest)
      | depth + 1 => (splitClose depth rest).map fun (body, tail) => (c :: body, tail)
    else
      (splitClose (if c == '\x7b' then depth + 1 else depth) rest).map fun (body, tail) =>
        (c :: body, tail)

theorem length_of_splitClose {depth : Nat} {cs body rest : List Char}
    (h : splitClose depth cs = some (body, rest)) : cs.length = body.length + 1 + rest.length := by
  induction cs generalizing depth body rest with
  | nil => simp [splitClose] at h
  | cons c cs ih =>
    unfold splitClose at h
    split at h
    · split at h
      · simp only [Option.some.injEq, Prod.mk.injEq] at h
        simp [← h.1, ← h.2]; omega
      · simp only [Option.map_eq_some_iff, Prod.mk.injEq, Prod.exists] at h
        obtain ⟨b, r, hb, rfl, rfl⟩ := h
        have := ih hb
        simp only [List.length_cons]; omega
    · simp only [Option.map_eq_some_iff, Prod.mk.injEq, Prod.exists] at h
      obtain ⟨b, r, hb, rfl, rfl⟩ := h
      have := ih hb
      simp only [List.length_cons]; omega

/-- Literal text, unless there is none. -/
def literalOf (text : List Char) : List Segment :=
  if text.isEmpty then [] else [.literal text]

/-- The segments of the rest of a pattern, with the literal text just before it; and the
    position of a conditional that is never closed. -/
def segmentsFrom (position : Nat) (before : List Char) (cs : List Char) :
    List Segment × Option Nat :=
  match cs with
  | [] => (literalOf before, none)
  | c :: rest =>
    if c == '\x7b' && rest.head? == some '?' then
      match _h : splitClose 0 rest.tail with
      | none => (literalOf (before ++ c :: rest), some position)
      | some (body, tail) =>
        let (more, unclosed) := segmentsFrom (position + body.length + 3) [] tail
        (literalOf before ++ .conditional ⟨body, position⟩ :: more, unclosed)
    else segmentsFrom (position + 1) (before ++ [c]) rest
termination_by cs.length
decreasing_by
  · have := length_of_splitClose _h
    simp only [List.length_tail, List.length_cons] at this ⊢
    omega
  · simp

/-- The closing brace stands between the two parts. -/
theorem text_of_splitClose {depth : Nat} {cs body rest : List Char}
    (h : splitClose depth cs = some (body, rest)) : body ++ '\x7d' :: rest = cs := by
  induction cs generalizing depth body rest with
  | nil => simp [splitClose] at h
  | cons c cs ih =>
    unfold splitClose at h
    split at h
    · rename_i hc
      split at h
      · simp_all
      · simp only [Option.map_eq_some_iff, Prod.mk.injEq, Prod.exists] at h
        obtain ⟨b, r, hb, rfl, rfl⟩ := h
        simp [ih hb]
    · simp only [Option.map_eq_some_iff, Prod.mk.injEq, Prod.exists] at h
      obtain ⟨b, r, hb, rfl, rfl⟩ := h
      simp [ih hb]

theorem flatMap_text_literalOf (text : List Char) :
    (literalOf text).flatMap Segment.text = text := by
  unfold literalOf
  split <;> simp_all [Segment.text]

/-- Splitting loses nothing. -/
theorem flatMap_text_segmentsFrom (position : Nat) (before cs : List Char) :
    (segmentsFrom position before cs).1.flatMap Segment.text = before ++ cs := by
  fun_induction segmentsFrom position before cs with
  | case1 => simp [flatMap_text_literalOf]
  | case2 position before c rest hopen hnone => simp [flatMap_text_literalOf]
  | case3 position before c rest hopen body tail hclose more unclosed heq ih =>
    have h1 := text_of_splitClose hclose
    simp only [Bool.and_eq_true, beq_iff_eq] at hopen
    obtain ⟨rfl, hq⟩ := hopen
    cases rest with
    | nil => simp at hq
    | cons d rest =>
      simp only [List.head?_cons, Option.some.injEq] at hq
      subst hq
      simp only [List.tail_cons] at h1
      simp_all [flatMap_text_literalOf, Segment.text, Conditional.raw]
  | case4 position before c rest hopen ih => simp [ih]

/-- The segments of a pattern, and the position of a conditional that is never closed. -/
def segments (cs : List Char) : List Segment × Option Nat :=
  segmentsFrom 0 [] cs

end Pattern

/-! ## Templates -/

open Pattern

/-- A pattern with its segments. -/
structure Template where
  pattern : String
  segments : List Segment
  unclosed : Option Nat
deriving Repr, DecidableEq

namespace Template

def tooLongMessage (length : Nat) : String :=
  s!"Pattern is too long ({length} > {maxLength} characters)"

/-- The template of a pattern that is neither empty nor too long. -/
def parse (pattern : String) : Except Failure Template :=
  if pattern.isEmpty then .error (.malformedBy "Pattern cannot be empty")
  else if maxLength < pattern.length then .error (.malformedBy (tooLongMessage pattern.length))
  else
    let (segments, unclosed) := Pattern.segments pattern.toList
    .ok ⟨pattern, segments, unclosed⟩

/-- The characters of the pattern. -/
def text (t : Template) : List Char :=
  t.pattern.toList

/-- What is wrong with the structure of the pattern. -/
def structureErrors (t : Template) : List String :=
  t.unclosed.toList.map fun position => s!"Unclosed conditional starting at position {position}"

def conditionals (t : Template) : List Conditional :=
  t.segments.filterMap fun
    | .conditional c => some c
    | .literal _ => none

/-- The variable tokens anywhere in the pattern, in order. -/
def tokenList (t : Template) : List Token :=
  tokens t.text

/-- The names of the variables, each where it comes first. -/
def variableNames (t : Template) : List String :=
  (t.tokenList.map (·.name)).eraseDups

def hasVariable (t : Template) (name : String) : Bool :=
  t.variableNames.contains (Text.upper name)

def hasCounter (t : Template) : Bool :=
  t.hasVariable "COUNTER"

def hasConditionals (t : Template) : Bool :=
  !t.conditionals.isEmpty

/-- No variables at all. -/
def isStatic (t : Template) : Bool :=
  t.tokenList.isEmpty

/-- How involved the pattern is, from 0 to 100. -/
def complexity (t : Template) : Nat :=
  min 100 (10 * t.tokenList.length + 25 * t.conditionals.length + t.pattern.length / 25)

end Template

/-- A conditional opens somewhere in the text. -/
def Pattern.opensConditional : List Char → Bool
  | [] => false
  | c :: rest => (c == '\x7b' && rest.head? == some '?') || opensConditional rest

end SerialNumbers
