/-
  SerialNumbers.Proofs.Text.Blank

  White space and trimming of joined texts.  Blanks in front of a text come off again
  (`trimStart_append`), and taking the blanks off the end does not look at what
  stands before a text that is not blank (`trimEnd_append`).
-/
import SerialNumbers.Text.Blank
import Mathlib.Data.List.TakeWhile

namespace SerialNumbers.Text

variable {blanks cs xs ys : List Char}

/-- No character of ASCII that can be seen is white space. -/
theorem isBlank_of_visible {c : Char} (hlow : 0x20 < c.toNat) (hhigh : c.toNat < 0x7F) :
    isBlank c = false := by
  rw [← Bool.not_eq_true]
  simp only [isBlank, Span.anyHolds, blankSpans, List.any_cons, List.any_nil, Bool.or_eq_true,
    Span.holds_iff, Bool.false_eq_true, or_false]
  omega

theorem trimStart_append (h : ∀ c ∈ blanks, isBlank c = true) (cs : List Char) :
    trimStart (blanks ++ cs) = trimStart cs :=
  List.dropWhile_append_of_pos h

theorem trim_append (h : ∀ c ∈ blanks, isBlank c = true) (cs : List Char) :
    trim (blanks ++ cs) = trim cs := by
  unfold trim
  rw [trimStart_append h]

theorem trimEnd_append (h : trimEnd ys ≠ []) (xs : List Char) :
    trimEnd (xs ++ ys) = xs ++ trimEnd ys := by
  have hkept : ¬(ys.reverse.dropWhile isBlank).isEmpty = true := by
    simpa [trimEnd] using h
  simp [trimEnd, List.dropWhile_append, hkept]

/-- A text without blanks loses nothing at its end. -/
theorem trimEnd_of_forall (h : ∀ c ∈ cs, isBlank c = false) : trimEnd cs = cs := by
  have hkept : cs.reverse.dropWhile isBlank = cs.reverse := by
    rw [List.dropWhile_eq_self_iff]
    intro hlength
    rw [h _ (List.mem_reverse.mp (List.getElem_mem hlength))]
    exact Bool.false_ne_true
  rw [trimEnd, hkept, List.reverse_reverse]

/-! ## Trimmed texts -/

theorem length_trimEnd_le (cs : List Char) : (trimEnd cs).length ≤ cs.length := by
  have hdropped := (List.dropWhile_suffix isBlank (l := cs.reverse)).length_le
  simpa [trimEnd] using hdropped

theorem trimStart_of_trim (h : trim cs = cs) : trimStart cs = cs := by
  have hsuffix : trimStart cs <:+ cs := List.dropWhile_suffix isBlank
  have hlength : cs.length ≤ (trimStart cs).length := calc
    cs.length = (trim cs).length := by rw [h]
    _ ≤ (trimStart cs).length := length_trimEnd_le (trimStart cs)
  exact hsuffix.eq_of_length_le hlength

theorem trimEnd_of_trim (h : trim cs = cs) : trimEnd cs = cs := by
  have hstart : trimStart cs = cs := trimStart_of_trim h
  rw [trim, hstart] at h
  exact h

end SerialNumbers.Text
