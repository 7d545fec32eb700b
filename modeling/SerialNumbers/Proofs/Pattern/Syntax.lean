/-
  SerialNumbers.Proofs.Pattern.Syntax

  Patterns that the check has nothing against.  What this says of a template is
  put together once (`Registry.Passes`): no conditional is left open, every
  conditional can be read, all braces are closed, and what stands inside the
  innermost braces of literal text or of a branch is a token whose parameter its
  variable takes.  A pattern that is found valid has such a template
  (`Registry.checkSyntax_passes`).
-/
import SerialNumbers.Pattern.Syntax
import SerialNumbers.Proofs.Pattern.Template
import SerialNumbers.Proofs.Pattern.Token
import SerialNumbers.Proofs.Variable.Parameter

namespace SerialNumbers

open Pattern Text

/-! ## Findings -/

theorem Findings.isValid_foldl_merge {α : Type} (f : α → Findings) (xs : List α)
    (found : Findings) :
    (xs.foldl (fun found x => found.merge (f x)) found).isValid = true ↔
      found.isValid = true ∧ ∀ x ∈ xs, (f x).isValid = true := by
  induction xs generalizing found with
  | nil => simp
  | cons x xs ih =>
    rw [List.foldl_cons, ih, isValid_merge, Bool.and_eq_true, List.forall_mem_cons, and_assoc]

/-! ## Conditionals -/

namespace Pattern.Conditional

/-- In a conditional that cannot be read something is wrong. -/
theorem isValid_of_read_eq_none {c : Conditional} (h : c.read.1 = none) :
    c.read.2.isValid = false := by
  unfold read at h ⊢
  cases hbody : c.body.dropWhile (· != '?') with
  | nil => exact Findings.isValid_error _ _ _
  | cons mark branches =>
    cases hcondition : Condition.read? (c.body.takeWhile (· != '?')) with
    | none =>
      dsimp only
      rw [hcondition]
      exact Findings.isValid_error _ _ _
    | some asked =>
      rw [hbody] at h
      dsimp only at h
      rw [hcondition] at h
      cases h

/-- A conditional that nothing is wrong with is read. -/
theorem checked_of_isValid {c : Conditional} (h : c.read.2.isValid = true) :
    ∃ choice, c.read.1 = some choice ∧ c.checked = .ok choice := by
  cases hread : c.read.1 with
  | none =>
    rw [isValid_of_read_eq_none hread] at h
    cases h
  | some choice =>
    refine ⟨choice, rfl, ?_⟩
    have hpair : c.read = (some choice, c.read.2) := Prod.ext hread rfl
    unfold checked
    rw [hpair]
    exact if_pos h

/-- A conditional that something is wrong with makes a pattern malformed. -/
theorem malformed_checked {c : Conditional} (h : c.read.2.isValid = false) :
    Malformed c.checked := by
  unfold checked
  split
  · rename_i hread
    rw [hread] at h
    rw [if_neg (by rw [h]; exact Bool.false_ne_true)]
    exact ⟨_, _, rfl⟩
  · exact ⟨_, _, rfl⟩

theorem isValid_of_checked {c : Conditional} {choice : Choice} (h : c.checked = .ok choice) :
    c.read.2.isValid = true := by
  rw [← Bool.not_eq_false]
  intro hinvalid
  have hmalformed := malformed_checked hinvalid
  rw [h] at hmalformed
  exact not_malformed_ok choice hmalformed

end Pattern.Conditional

namespace Template

variable {t : Template}

theorem mem_conditionals {c : Conditional} : c ∈ t.conditionals ↔ .conditional c ∈ t.segments := by
  unfold conditionals
  rw [List.mem_filterMap]
  constructor
  · rintro ⟨segment, hsegment, h⟩
    cases segment with
    | literal text => cases h
    | conditional d =>
      cases h
      exact hsegment
  · exact fun hc => ⟨_, hc, rfl⟩

/-- The conditionals of a template are in order when none is left open and nothing is wrong with
    any of them. -/
theorem conditionalFindings_isValid : t.conditionalFindings.isValid = true ↔
    t.unclosed = none ∧ ∀ c, .conditional c ∈ t.segments → c.read.2.isValid = true := by
  have hopen : (t.structureErrors.foldl
      (fun found e => found.error e Findings.unclosedConditional) Findings.none).isValid = true ↔
      t.unclosed = none := by
    unfold structureErrors
    cases t.unclosed with
    | none => exact ⟨fun _ => rfl, fun _ => rfl⟩
    | some position => exact ⟨nofun, nofun⟩
  unfold conditionalFindings
  rw [Findings.isValid_foldl_merge (fun c : Conditional => c.read.2), hopen]
  simp only [mem_conditionals]

/-- Where the conditionals of a template are in order, none is left open and each can be read. -/
theorem conditionals_of_isValid (h : t.conditionalFindings.isValid = true) :
    t.unclosed = none ∧
      ∀ c, .conditional c ∈ t.segments →
        ∃ choice, c.read.1 = some choice ∧ c.checked = .ok choice := by
  obtain ⟨hclosed, hread⟩ := conditionalFindings_isValid.mp h
  exact ⟨hclosed, fun c hc => Conditional.checked_of_isValid (hread c hc)⟩

end Template

/-! ## Tokens -/

namespace Registry

variable {r : Registry}

theorem bodyFindings_eq_ok {inside : List Char} {found found' : Findings}
    (h : r.bodyFindings inside found = .ok found') (hvalid : found'.isValid = true) :
    found' = found ∧ ∃ token, token? ('\x7b' :: inside ++ ['\x7d']) = some token ∧
      r.Admits token := by
  unfold bodyFindings at h
  dsimp only at h
  split at h
  · rw [← Except.ok.inj h, Findings.isValid_error] at hvalid
    cases hvalid
  · split at h
    · rw [← Except.ok.inj h, Findings.isValid_error] at hvalid
      cases hvalid
    · rename_i name htoken
      refine ⟨(Except.ok.inj h).symm, _, htoken, ?_⟩
      rintro parameter ⟨⟩
    · rename_i name parameter htoken
      obtain ⟨problem?, hproblem, h⟩ := Except.bind_eq_ok.mp h
      cases problem? with
      | some problem =>
        rw [← Except.ok.inj h, Findings.isValid_error] at hvalid
        cases hvalid
      | none =>
        refine ⟨(Except.ok.inj h).symm, _, htoken, ?_⟩
        rintro parameter ⟨⟩
        exact hproblem

/-- Where nothing is found from the first braces to the last, nothing was found at any. -/
theorem foldlM_bodyFindings_eq_ok {insides : List (List Char)} {found found' : Findings}
    (h : insides.foldlM (fun found inside => r.bodyFindings inside found) found = .ok found')
    (hvalid : found'.isValid = true) :
    found' = found ∧ ∀ inside ∈ insides,
      ∃ token, token? ('\x7b' :: inside ++ ['\x7d']) = some token ∧ r.Admits token := by
  induction insides generalizing found with
  | nil => exact ⟨(Except.ok.inj h).symm, List.forall_mem_nil _⟩
  | cons inside insides ih =>
    rw [List.foldlM_cons] at h
    obtain ⟨next, hnext, hrest⟩ := Except.bind_eq_ok.mp h
    obtain ⟨rfl, hinsides⟩ := ih hrest
    obtain ⟨rfl, hinside⟩ := bodyFindings_eq_ok hnext hvalid
    exact ⟨rfl, List.forall_mem_cons.mpr ⟨hinside, hinsides⟩⟩

/-! ## Whole patterns -/

/-- Nothing is wrong with a template. -/
structure Passes (r : Registry) (t : Template) : Prop where
  closed : t.unclosed = none
  readable : ∀ c, .conditional c ∈ t.segments →
    ∃ choice, c.read.1 = some choice ∧ c.checked = .ok choice
  balanced : isBalanced t.text = true
  bodies : ∀ text ∈ t.segments.flatMap Template.tokenTexts, ∀ inside ∈ braceBodies text,
    ∃ token, token? ('\x7b' :: inside ++ ['\x7d']) = some token ∧ r.Admits token

/-- The variables of the tokens in literal text and in branches take their parameters. -/
theorem Passes.admits {t : Template} (h : r.Passes t) {text : List Char}
    (htext : text ∈ t.segments.flatMap Template.tokenTexts) {token : Token}
    (htoken : token ∈ tokens text) : r.Admits token := by
  rw [tokens_eq_filterMap] at htoken
  obtain ⟨inside, hinside, hread⟩ := List.mem_filterMap.mp htoken
  obtain ⟨token', hread', hadmits⟩ := h.bodies text htext inside hinside
  rw [hread] at hread'
  cases hread'
  exact hadmits

theorem templateFindings_passes {t : Template} {found : Findings}
    (h : r.templateFindings t = .ok found) (hvalid : found.isValid = true) : r.Passes t := by
  unfold templateFindings at h
  dsimp only at h
  split at h
  · -- A conditional that is left open is a finding.
    rename_i hunclosed
    rw [← Except.ok.inj h] at hvalid
    rw [(Template.conditionals_of_isValid hvalid).1] at hunclosed
    cases hunclosed
  · split at h
    · rw [← Except.ok.inj h, Findings.isValid_error] at hvalid
      cases hvalid
    · rename_i hbalanced
      obtain ⟨found', hfound, h⟩ := Except.bind_eq_ok.mp h
      -- A missing counter is no error.
      have hvalid' : found'.isValid = true := by
        rw [← hvalid, ← Except.ok.inj h]
        split
        · rfl
        · exact (Findings.isValid_warn _ _).symm
      obtain ⟨rfl, hbodies⟩ := foldlM_bodyFindings_eq_ok hfound hvalid'
      obtain ⟨hclosed, hreadable⟩ := Template.conditionals_of_isValid hvalid'
      refine ⟨hclosed, hreadable, by simpa using hbalanced, ?_⟩
      intro text htext inside hinside
      exact hbodies inside (List.mem_flatMap.mpr ⟨text, htext, hinside⟩)

/-- A pattern that is found valid has a template that nothing is wrong with. -/
theorem checkSyntax_passes {pattern : String} {found : Findings}
    (h : r.checkSyntax pattern = .ok found) (hvalid : found.isValid = true) :
    ∃ t, Template.parse pattern = .ok t ∧ r.Passes t := by
  unfold checkSyntax at h
  unfold Template.parse
  split at h
  · rw [← Except.ok.inj h, Findings.isValid_error] at hvalid
    cases hvalid
  · split at h
    · rw [← Except.ok.inj h, Findings.isValid_error] at hvalid
      cases hvalid
    · rename_i hnonempty hshort
      rw [if_neg hnonempty, if_neg hshort]
      exact ⟨_, rfl, templateFindings_passes h hvalid⟩

end Registry

end SerialNumbers
