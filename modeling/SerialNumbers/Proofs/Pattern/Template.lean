/-
  SerialNumbers.Proofs.Pattern.Template

  Templates of patterns.  The template that a pattern is issued by is the one
  that its text is split into, and a pattern in which no conditional opens
  expands to itself.
-/
import SerialNumbers.Issuer
import SerialNumbers.Proofs.Store.Action

namespace SerialNumbers

open Pattern

/-- A text in which no conditional opens is one literal segment. -/
theorem Pattern.segmentsFrom_plain (position : Nat) (before cs : List Char)
    (h : opensConditional cs = false) :
    segmentsFrom position before cs = (literalOf (before ++ cs), none) := by
  induction cs generalizing position before with
  | nil =>
    unfold segmentsFrom
    rw [List.append_nil]
  | cons c rest ih =>
    -- Nothing opens here, so the character is added to the literal text.
    obtain ⟨hopen, hrest⟩ := Bool.or_eq_false_iff.mp h
    unfold segmentsFrom
    rw [if_neg (by rw [hopen]; exact Bool.false_ne_true), ih _ _ hrest, List.append_assoc]
    rfl

theorem Template.parse_eq_ok {pattern : String} {t : Template} (h : Template.parse pattern = .ok t) :
    t = ⟨pattern, (Pattern.segments pattern.toList).1, (Pattern.segments pattern.toList).2⟩ := by
  unfold Template.parse at h
  split at h
  · cases h
  · split at h
    · cases h
    · exact (Except.ok.inj h).symm

/-- A template without conditionals expands to its pattern. -/
theorem Template.expand_plain {t : Template} {pattern : String}
    {lookup : String → Except Failure (Option String)}
    (hparse : Template.parse pattern = .ok t) (hplain : opensConditional pattern.toList = false) :
    t.expand lookup = .ok pattern.toList := by
  have hsegments : Pattern.segments pattern.toList = (literalOf pattern.toList, none) :=
    segmentsFrom_plain 0 [] pattern.toList hplain
  rw [Template.parse_eq_ok hparse, hsegments]
  show Template.expandAll lookup (literalOf pattern.toList) = _
  unfold literalOf
  split
  · rename_i hempty
    rw [List.isEmpty_iff.mp hempty]
    rfl
  · show Except.ok (pattern.toList ++ []) = _
    rw [List.append_nil]

namespace Issuer

variable {i : Issuer} {pattern : String} {t : Template}

/-- Only the template of a pattern that is found valid is issued by. -/
theorem valid_of_checkedTemplate (h : i.checkedTemplate pattern = .ok t) :
    ∃ found, i.registry.checkSyntax pattern = .ok found ∧ found.isValid = true ∧
      Template.parse pattern = .ok t := by
  obtain ⟨found, hfound, h⟩ := Except.bind_eq_ok.mp h
  split at h
  · rename_i hvalid
    exact ⟨found, hfound, hvalid, h⟩
  · cases h

/-- A checked template is the one that its pattern is split into. -/
theorem checkedTemplate_eq_ok (h : i.checkedTemplate pattern = .ok t) :
    Template.parse pattern = .ok t := by
  obtain ⟨found, -, -, hparse⟩ := valid_of_checkedTemplate h
  exact hparse

/-- Whatever pattern the caller has had checked, the template that a number is issued by is that of
    the pattern of the row. -/
theorem issueStep_of_checked (h : i.checkedTemplate pattern = .ok t) (tx : Transaction)
    (c : Context) (causer : Value) (now : Time.Moment) :
    i.issueStep t tx c causer now = do
      let t ← i.checkedTemplate tx.opened.pattern
      let (reason, tx) ← i.resetIfDue tx causer now
      let (number, tx) ← i.issueIn t tx c causer now
      return ((number, reason), tx) := by
  unfold issueStep
  by_cases hsame : tx.opened.pattern == t.pattern
  · have hpattern : t.pattern = pattern :=
      congrArg Template.pattern (Template.parse_eq_ok (checkedTemplate_eq_ok h))
    rw [if_pos hsame, eq_of_beq hsame, hpattern, h]
    rfl
  · rw [if_neg hsame]

/-- A number is what the template evaluates to on the clock of the issuer, if that is not too
    long. -/
theorem evaluate_of_render {row : Sequence} {counter : Int} {c : Context} {now : Time.Moment}
    {number : String} (h : i.render t row counter c now = .ok number) :
    ∃ here s, now.inZone i.zone = .ok here ∧
      Scope.forMoment i.registry c here counter row.padding = .ok s ∧
      t.evaluate s = .ok number ∧ number.length ≤ Pattern.maxLength := by
  obtain ⟨here, hhere, h⟩ := Except.bind_eq_ok.mp h
  obtain ⟨s, hs, h⟩ := Except.bind_eq_ok.mp h
  obtain ⟨text, htext, h⟩ := Except.bind_eq_ok.mp h
  split at h
  · cases h
  · split at h
    · cases h
    · rename_i hlength
      cases h
      exact ⟨here, s, hhere, hs, htext, Nat.le_of_not_lt hlength⟩

end Issuer

end SerialNumbers
