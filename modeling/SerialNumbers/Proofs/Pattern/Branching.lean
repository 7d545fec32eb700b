/-
  SerialNumbers.Proofs.Pattern.Branching

  Conditionals where every variable can be looked up.  The check of a template
  looks at all its conditionals and the expansion stops at the first that it
  cannot use, and still they agree: the check has something against the
  conditionals just when no values of the variables let the template be expanded
  (`Template.conditionals_decide`).  An expansion has for each conditional the
  branch that its condition asks for (`Segment.Becomes`).
-/
import Mathlib.Data.List.Forall2
import SerialNumbers.Proofs.Pattern.Segment

namespace SerialNumbers

open Pattern

/-! ## One segment -/

/-- What a segment becomes where variables have these values: literal text stays as it is, and a
    conditional gives way to its first branch if its condition holds and to its second if not. -/
inductive Pattern.Segment.Becomes (values : String → Option String) :
    Segment → List Char → Prop where
  | literal (text : List Char) : Becomes values (.literal text) text
  | whenTrue {c : Conditional} {choice : Choice} (hread : c.read.1 = some choice)
      (hholds : choice.condition.holds (values choice.condition.subject) = true) :
      Becomes values (.conditional c) choice.whenTrue
  | whenFalse {c : Conditional} {choice : Choice} (hread : c.read.1 = some choice)
      (hholds : choice.condition.holds (values choice.condition.subject) = false) :
      Becomes values (.conditional c) choice.whenFalse

/-- What is wrong with a segment. -/
def Pattern.Segment.findings : Segment → Findings
  | .literal _ => Findings.none
  | .conditional c => c.read.2

namespace Template

/-- Looks a variable up where every one can be. -/
def given (values : String → Option String) (name : String) : Except Failure (Option String) :=
  .ok (values name)

variable {t : Template} {segment : Segment} {segments : List Segment}
  (values : String → Option String)

theorem expandSegment_becomes (h : segment.findings.isValid = true) :
    ∃ text, expandSegment (given values) segment = .ok text ∧ segment.Becomes values text := by
  cases segment with
  | literal text => exact ⟨text, rfl, .literal text⟩
  | conditional c =>
    obtain ⟨choice, hread, hchecked⟩ := Conditional.checked_of_isValid h
    unfold expandSegment given
    dsimp only
    rw [hchecked]
    refine ⟨_, rfl, ?_⟩
    cases hholds : choice.condition.holds (values choice.condition.subject) with
    | true => exact .whenTrue hread hholds
    | false => exact .whenFalse hread hholds

theorem malformed_expandSegment (h : segment.findings.isValid = false) :
    Malformed (expandSegment (given values) segment) := by
  cases segment with
  | literal text => cases h
  | conditional c => exact malformed_bind.mpr (.inl (Conditional.malformed_checked h))

/-! ## All segments -/

theorem expandAll_becomes (h : ∀ segment ∈ segments, segment.findings.isValid = true) :
    ∃ texts, List.Forall₂ (Segment.Becomes values) segments texts ∧
      expandAll (given values) segments = .ok texts.flatten := by
  induction segments with
  | nil => exact ⟨[], .nil, rfl⟩
  | cons segment segments ih =>
    obtain ⟨hsegment, hsegments⟩ := List.forall_mem_cons.mp h
    obtain ⟨text, htext, hbecomes⟩ := expandSegment_becomes values hsegment
    obtain ⟨texts, hall, htexts⟩ := ih hsegments
    refine ⟨text :: texts, .cons hbecomes hall, ?_⟩
    unfold expandAll
    rw [htext, htexts]
    rfl

/-- A conditional that something is wrong with is come to, since those before it do no more than
    be expanded. -/
theorem malformed_expandAll (hsegment : segment ∈ segments)
    (h : segment.findings.isValid = false) : Malformed (expandAll (given values) segments) := by
  induction segments with
  | nil => cases hsegment
  | cons first segments ih =>
    cases hfirst : first.findings.isValid with
    | false => exact malformed_bind.mpr (.inl (malformed_expandSegment values hfirst))
    | true =>
      obtain ⟨text, htext, -⟩ := expandSegment_becomes values hfirst
      have hrest : segment ∈ segments := by
        rcases List.mem_cons.mp hsegment with rfl | hrest
        · rw [hfirst] at h
          cases h
        · exact hrest
      exact malformed_bind.mpr (.inr ⟨text, htext, malformed_bind.mpr (.inl (ih hrest))⟩)

/-! ## Templates -/

theorem expand_becomes (h : t.conditionalFindings.isValid = true) :
    ∃ texts, List.Forall₂ (Segment.Becomes values) t.segments texts ∧
      t.expand (given values) = .ok texts.flatten := by
  obtain ⟨hclosed, hread⟩ := conditionalFindings_isValid.mp h
  unfold expand
  rw [hclosed]
  refine expandAll_becomes values fun segment hsegment => ?_
  cases segment with
  | literal text => rfl
  | conditional c => exact hread c hsegment

theorem malformed_expand (h : t.conditionalFindings.isValid = false) :
    Malformed (t.expand (given values)) := by
  unfold expand
  cases hunclosed : t.unclosed with
  | some position => exact ⟨_, _, rfl⟩
  | none =>
    -- No conditional is left open, so there is one that something is wrong with.
    have hwrong : ¬∀ c, .conditional c ∈ t.segments → c.read.2.isValid = true := by
      intro hread
      rw [conditionalFindings_isValid.mpr ⟨hunclosed, hread⟩] at h
      cases h
    obtain ⟨c, hwrong⟩ := not_forall.mp hwrong
    obtain ⟨hc, hinvalid⟩ := Classical.not_imp.mp hwrong
    exact malformed_expandAll values hc (Bool.eq_false_iff.mpr hinvalid)

theorem parse_total {pattern : String} (hsome : 1 ≤ pattern.length)
    (hshort : pattern.length ≤ maxLength) : ∃ t, Template.parse pattern = .ok t := by
  unfold parse
  have hnonempty : ¬pattern.isEmpty = true := by
    rw [String.isEmpty_iff]
    rintro rfl
    exact absurd hsome (by decide)
  rw [if_neg hnonempty, if_neg (Nat.not_lt.mpr hshort)]
  exact ⟨_, rfl⟩

/-- A pattern that is neither empty nor too long has a template, whose segments are the whole
    pattern.  The check of its conditionals has nothing against them just when the template can be
    expanded with all values of the variables, and something just when it is malformed with all;
    and what it expands to are the literal segments, with the branches that the conditions ask
    for in the places of the conditionals. -/
theorem conditionals_decide {pattern : String} (hsome : 1 ≤ pattern.length)
    (hshort : pattern.length ≤ maxLength) :
    ∃ t, Template.parse pattern = .ok t ∧ t.segments.flatMap Segment.text = pattern.toList ∧
      (t.conditionalFindings.isValid = true ↔
        ∀ values, ∃ text, t.expand (given values) = .ok text) ∧
      (t.conditionalFindings.isValid = false ↔ ∀ values, Malformed (t.expand (given values))) ∧
      ∀ values text, t.expand (given values) = .ok text →
        ∃ texts, List.Forall₂ (Segment.Becomes values) t.segments texts ∧ text = texts.flatten := by
  obtain ⟨t, hparse⟩ := parse_total hsome hshort
  have hpattern : t.text = pattern.toList := by
    rw [parse_eq_ok hparse]
    rfl
  have hnever (values : String → Option String) (hok : ∃ text, t.expand (given values) = .ok text)
      (hmalformed : Malformed (t.expand (given values))) : False := by
    obtain ⟨text, htext⟩ := hok
    rw [htext] at hmalformed
    exact not_malformed_ok text hmalformed
  refine ⟨t, hparse, (flatMap_text_of_parse hparse).trans hpattern, ?_, ?_, ?_⟩
  · constructor
    · intro hvalid values
      obtain ⟨texts, -, hexpand⟩ := expand_becomes values hvalid
      exact ⟨_, hexpand⟩
    · intro hok
      rw [← Bool.not_eq_false]
      intro hinvalid
      exact hnever (fun _ => none) (hok _) (malformed_expand _ hinvalid)
  · constructor
    · exact fun hinvalid values => malformed_expand values hinvalid
    · intro hmalformed
      rw [← Bool.not_eq_true]
      intro hvalid
      obtain ⟨texts, -, hexpand⟩ := expand_becomes (fun _ => none) hvalid
      exact hnever _ ⟨_, hexpand⟩ (hmalformed _)
  · intro values text htext
    cases hvalid : t.conditionalFindings.isValid with
    | false => exact absurd (malformed_expand values hvalid) (hnever values ⟨text, htext⟩)
    | true =>
      obtain ⟨texts, hall, hexpand⟩ := expand_becomes values hvalid
      rw [htext] at hexpand
      exact ⟨texts, hall, Except.ok.inj hexpand⟩

/-- A pattern with one conditional: whatever the tier is, one of the branches stands before the
    counter. -/
theorem conditionals_decide_tier :
    let pattern := "\x7b?TIER=VIP?V:S\x7d-\x7bCOUNTER\x7d"
    1 ≤ pattern.length ∧ pattern.length ≤ maxLength ∧
      ∃ t, Template.parse pattern = .ok t ∧ t.conditionalFindings.isValid = true ∧
        ∀ values, ∃ text, t.expand (given values) = .ok text ∧
          ∃ texts, List.Forall₂ (Segment.Becomes values) t.segments texts ∧
            text = texts.flatten := by
  intro pattern
  have hsome : 1 ≤ pattern.length := by decide
  have hshort : pattern.length ≤ maxLength := by decide
  obtain ⟨t, hparse, -, hvalid, -, hbecomes⟩ := conditionals_decide hsome hshort
  have hfound : t.conditionalFindings.isValid = true := by
    rw [parse_eq_ok hparse]
    decide +kernel
  refine ⟨hsome, hshort, t, hparse, hfound, fun values => ?_⟩
  obtain ⟨text, htext⟩ := hvalid.mp hfound values
  exact ⟨text, htext, hbecomes values text htext⟩

end Template

end SerialNumbers
