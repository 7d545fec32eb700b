/-
  SerialNumbers.Proofs.Pattern.Soundness

  Evaluation of patterns that the check has nothing against.  The check reads
  every segment of a pattern by itself, evaluation reads the text in which each
  conditional has given way to a branch.  So the only thing that can make such a
  pattern malformed is a token that is no token of any segment, and whose
  parameter the check would have refused (`Registry.malformed_at_spliced`).
  Where every segment closes its own braces there is no such token, and the
  pattern is never malformed (`Registry.not_malformed_of_segmentBalanced`).
-/
import SerialNumbers.Pattern.Evaluation
import SerialNumbers.Proofs.Pattern.Syntax

namespace SerialNumbers

open Pattern Time

/-! ## The two passes -/

/-- Only a token makes a text malformed. -/
theorem Pattern.substitute_malformed {text : Token → Except Failure (List Char)} {ps : List Piece}
    (h : Malformed (substitute text ps)) : ∃ token, .token token ∈ ps ∧ Malformed (text token) := by
  induction ps with
  | nil => exact absurd h (not_malformed_ok [])
  | cons p ps ih =>
    cases p with
    | char c =>
      rcases malformed_bind.mp h with h | ⟨more, -, h⟩
      · obtain ⟨token, htoken, hmalformed⟩ := ih h
        exact ⟨token, List.mem_cons_of_mem _ htoken, hmalformed⟩
      · exact absurd h (not_malformed_ok _)
    | token t =>
      rcases malformed_bind.mp h with h | ⟨first, -, h⟩
      · exact ⟨t, List.mem_cons_self, h⟩
      · rcases malformed_bind.mp h with h | ⟨more, -, h⟩
        · obtain ⟨token, htoken, hmalformed⟩ := ih h
          exact ⟨token, List.mem_cons_of_mem _ htoken, hmalformed⟩
        · exact absurd h (not_malformed_ok _)

theorem Pattern.Choice.branch_mem (choice : Choice) (holds : Bool) :
    choice.branch holds ∈ [choice.whenTrue, choice.whenFalse] := by
  cases holds with
  | true => exact List.mem_cons_self
  | false => exact List.mem_cons_of_mem _ List.mem_cons_self

namespace Template

variable {t : Template} {r : Registry} {lookup : String → Except Failure (Option String)}

theorem not_malformed_expandAll {segments : List Segment}
    (hread : ∀ c, .conditional c ∈ segments → ∃ choice, c.checked = .ok choice)
    (hlookup : ∀ name, ¬Malformed (lookup name)) : ¬Malformed (expandAll lookup segments) := by
  induction segments with
  | nil => exact not_malformed_ok []
  | cons segment segments ih =>
    intro h
    rcases malformed_bind.mp h with h | ⟨first, -, h⟩
    · cases segment with
      | literal text => exact not_malformed_ok text h
      | conditional c =>
        obtain ⟨choice, hchoice⟩ := hread c List.mem_cons_self
        rcases malformed_bind.mp h with h | ⟨choice', -, h⟩
        · rw [hchoice] at h
          exact not_malformed_ok _ h
        · rcases malformed_bind.mp h with h | ⟨value, -, h⟩
          · exact hlookup _ h
          · exact not_malformed_ok _ h
    · rcases malformed_bind.mp h with h | ⟨more, -, h⟩
      · exact ih (fun c hc => hread c (List.mem_cons_of_mem _ hc)) h
      · exact not_malformed_ok _ h

/-- Where the conditionals are in order, choosing branches finds nothing malformed. -/
theorem not_malformed_expand (ht : r.Passes t) (hlookup : ∀ name, ¬Malformed (lookup name)) :
    ¬Malformed (t.expand lookup) := by
  unfold expand
  rw [ht.closed]
  refine not_malformed_expandAll (fun c hc => ?_) hlookup
  obtain ⟨choice, -, hchoice⟩ := ht.readable c hc
  exact ⟨choice, hchoice⟩

/-- Once its conditionals are in order, only a refused parameter makes a pattern malformed. -/
theorem evaluate_malformed {s : Scope} (hr : s.registry.Standard) (ht : s.registry.Passes t)
    (h : Malformed (t.evaluate s)) :
    ∃ expanded, t.expand s.lookup = .ok expanded ∧
      ∃ token ∈ tokens expanded, s.registry.Refuses token := by
  rcases malformed_bind.mp h with h | ⟨expanded, hexpanded, h⟩
  · exact absurd h (not_malformed_expand ht (Scope.not_malformed_lookup hr))
  · refine ⟨expanded, hexpanded, ?_⟩
    rcases malformed_bind.mp h with h | ⟨text, -, h⟩
    · obtain ⟨token, htoken, h⟩ := substitute_malformed h
      rcases malformed_bind.mp h with h | ⟨found, -, h⟩
      · exact ⟨token, mem_tokens htoken, Scope.resolve_malformed hr h⟩
      · exact absurd h (not_malformed_ok _)
    · exact absurd h (not_malformed_ok _)

/-! ## Expansions -/

variable {segments : List Segment} {text : List Char} {token : Token}

/-- What a segment expands to is one of the texts in which its tokens are read. -/
theorem mem_tokenTexts_of_expandSegment {segment : Segment}
    (hread : ∀ c, segment = .conditional c →
      ∃ choice, c.read.1 = some choice ∧ c.checked = .ok choice)
    (h : expandSegment lookup segment = .ok text) : text ∈ tokenTexts segment := by
  cases segment with
  | literal text' =>
    rw [← Except.ok.inj h]
    exact List.mem_singleton_self text'
  | conditional c =>
    obtain ⟨choice, hchoice, hchecked⟩ := hread c rfl
    obtain ⟨choice', hchecked', h⟩ := Except.bind_eq_ok.mp h
    obtain ⟨value, -, h⟩ := Except.bind_eq_ok.mp h
    rw [hchecked] at hchecked'
    cases hchecked'
    rw [← Except.ok.inj h]
    unfold tokenTexts
    dsimp only
    rw [hchoice]
    exact choice.branch_mem _

/-- The text is one that the segments may expand to: literal text as it is, and for each
    conditional either of its branches. -/
inductive Expands : List Segment → List Char → Prop where
  | nil : Expands [] []
  | cons {segment : Segment} {segments : List Segment} {text more : List Char}
      (htext : text ∈ tokenTexts segment) (hmore : Expands segments more) :
      Expands (segment :: segments) (text ++ more)

/-- Whatever the conditions come to, the segments expand to one of their expansions. -/
theorem expands_of_expandAll
    (hread : ∀ c, .conditional c ∈ segments →
      ∃ choice, c.read.1 = some choice ∧ c.checked = .ok choice)
    (h : expandAll lookup segments = .ok text) : Expands segments text := by
  induction segments generalizing text with
  | nil =>
    cases h
    exact .nil
  | cons segment segments ih =>
    obtain ⟨first, hfirst, h⟩ := Except.bind_eq_ok.mp h
    obtain ⟨more, hmore, h⟩ := Except.bind_eq_ok.mp h
    cases h
    refine .cons (mem_tokenTexts_of_expandSegment (fun c hc => hread c ?_) hfirst)
      (ih (fun c hc => hread c (List.mem_cons_of_mem _ hc)) hmore)
    rw [hc]
    exact List.mem_cons_self

/-! ## Segments that close their braces -/

/-- All literal text and all branches close the braces that they open. -/
def SegmentBalanced (t : Template) : Prop :=
  ∀ text ∈ t.segments.flatMap tokenTexts, isBalanced text = true

instance (t : Template) : Decidable t.SegmentBalanced :=
  inferInstanceAs (Decidable (∀ text ∈ t.segments.flatMap tokenTexts, isBalanced text = true))

/-- Where literal text and branches close their own braces, an expansion has their tokens only. -/
theorem mem_tokens_of_expands
    (hbalanced : ∀ text ∈ segments.flatMap tokenTexts, isBalanced text = true)
    (h : Expands segments text) (htoken : token ∈ tokens text) :
    token ∈ (segments.flatMap tokenTexts).flatMap tokens := by
  induction h with
  | nil =>
    rw [tokens_nil] at htoken
    cases htoken
  | @cons segment segments first more hfirst hmore ih =>
    rw [List.flatMap_cons] at hbalanced
    rw [tokens_append (hbalanced first (List.mem_append_left _ hfirst)), List.mem_append] at htoken
    rw [List.flatMap_cons, List.flatMap_append, List.mem_append]
    rcases htoken with htoken | htoken
    · exact .inl (List.mem_flatMap.mpr ⟨first, hfirst, htoken⟩)
    · exact .inr (ih (fun text htext => hbalanced text (List.mem_append_right _ htext)) htoken)

theorem SegmentBalanced.mem_tokens (h : t.SegmentBalanced) (ht : r.Passes t)
    (hexpand : t.expand lookup = .ok text) (htoken : token ∈ tokens text) :
    ∃ part ∈ t.segments.flatMap tokenTexts, token ∈ tokens part := by
  unfold expand at hexpand
  rw [ht.closed] at hexpand
  have hexpands := expands_of_expandAll ht.readable hexpand
  exact List.mem_flatMap.mp (mem_tokens_of_expands h hexpands htoken)

end Template

/-! ## Whole patterns -/

namespace Registry

variable {r : Registry} {pattern : String} {c : Context} {moment : Moment} {counter padding : Int}

/-- A pattern that is found valid is malformed, for a counter value at a moment in a caller's
    context, only by a token with a refused parameter. -/
theorem malformed_at_refused (hr : r.Standard) {t : Template}
    (hparse : Template.parse pattern = .ok t) (ht : r.Passes t)
    (h : Malformed (do
      let t ← Template.parse pattern
      t.evaluate (← Scope.forMoment r c moment counter padding))) :
    ∃ s expanded token, Scope.forMoment r c moment counter padding = .ok s ∧
      t.expand s.lookup = .ok expanded ∧ token ∈ tokens expanded ∧ r.Refuses token := by
  rw [hparse, Except.ok_bind] at h
  rcases malformed_bind.mp h with h | ⟨s, hs, h⟩
  · exact absurd h (Scope.not_malformed_forMoment r c moment counter padding)
  · obtain ⟨o, -, hof⟩ := Except.bind_eq_ok.mp hs
    have hof : Scope.of r c o = s := Except.ok.inj hof
    subst hof
    obtain ⟨expanded, hexpanded, token, htoken, hrefused⟩ := Template.evaluate_malformed hr ht h
    exact ⟨_, expanded, token, hs, hexpanded, htoken, hrefused⟩

/-- A pattern that is found valid and whose segments close their own braces never turns out
    malformed. -/
theorem not_malformed_of_segmentBalanced (hr : r.Standard) {found : Findings}
    (hcheck : r.checkSyntax pattern = .ok found) (hvalid : found.isValid = true) {t : Template}
    (hparse : Template.parse pattern = .ok t) (hbalanced : t.SegmentBalanced) :
    ¬Malformed (do
      let t ← Template.parse pattern
      t.evaluate (← Scope.forMoment r c moment counter padding)) := by
  intro h
  obtain ⟨t', hparse', ht⟩ := checkSyntax_passes hcheck hvalid
  cases hparse.symm.trans hparse'
  obtain ⟨s, expanded, token, -, hexpanded, htoken, hrefused⟩ := malformed_at_refused hr hparse ht h
  obtain ⟨text, htext, hmem⟩ := hbalanced.mem_tokens ht hexpanded htoken
  exact (ht.admits htext hmem).not_refuses hrefused

/-- The branches of an ordinary pattern hold whole tokens. -/
example :
    ((Template.parse "PO\x7b?TIER=VIP?-V\x7bCOUNTER:4\x7d:-\x7bCOUNTER:4\x7d\x7d").toOption.map
      fun t => decide t.SegmentBalanced) = some true := by
  decide +kernel

/-- A pattern that is found valid turns out malformed only by a token that the check has not
    seen, as no literal text and no branch has it, and whose parameter it would have refused;
    and then not every literal text and branch closes its own braces. -/
theorem malformed_at_spliced (hr : r.Standard) {found : Findings}
    (hcheck : r.checkSyntax pattern = .ok found) (hvalid : found.isValid = true)
    (h : Malformed (do
      let t ← Template.parse pattern
      t.evaluate (← Scope.forMoment r c moment counter padding))) :
    ∃ t s expanded token, Template.parse pattern = .ok t ∧
      Scope.forMoment r c moment counter padding = .ok s ∧ t.expand s.lookup = .ok expanded ∧
      token ∈ tokens expanded ∧ r.Refuses token ∧
      (∀ text ∈ t.segments.flatMap Template.tokenTexts, token ∉ tokens text) ∧
      ¬t.SegmentBalanced := by
  obtain ⟨t, hparse, ht⟩ := checkSyntax_passes hcheck hvalid
  obtain ⟨s, expanded, token, hs, hexpanded, htoken, hrefused⟩ := malformed_at_refused hr hparse ht h
  have hunseen : ∀ text ∈ t.segments.flatMap Template.tokenTexts, token ∉ tokens text :=
    fun text htext hmem => (ht.admits htext hmem).not_refuses hrefused
  refine ⟨t, s, expanded, token, hparse, hs, hexpanded, htoken, hrefused, hunseen, ?_⟩
  intro hbalanced
  obtain ⟨text, htext, hmem⟩ := hbalanced.mem_tokens ht hexpanded htoken
  exact hunseen text htext hmem

/-- The width of the counter that a branch of the conditional makes is out of range: valid,
    and malformed. -/
theorem malformed_at_spliced_width :
    let pattern := "\x7bCOUNTER:\x7b?X?99:99\x7d\x7d"
    let moment : Moment := ⟨Moment.midnight ⟨2024, 1, 1⟩, none, false⟩
    ∃ found, empty.withDefaults.checkSyntax pattern = .ok found ∧ found.isValid = true ∧
      Malformed (do
        let t ← Template.parse pattern
        t.evaluate (← Scope.forMoment empty.withDefaults .empty moment 1 5)) ∧
      ∃ t s expanded token, Template.parse pattern = .ok t ∧
        Scope.forMoment empty.withDefaults .empty moment 1 5 = .ok s ∧
        t.expand s.lookup = .ok expanded ∧ token ∈ tokens expanded ∧
        empty.withDefaults.Refuses token ∧
        (∀ text ∈ t.segments.flatMap Template.tokenTexts, token ∉ tokens text) ∧
        ¬t.SegmentBalanced := by
  intro pattern moment
  have hcheck : empty.withDefaults.checkSyntax pattern = .ok
      (Findings.none.warn "Pattern has no \x7bCOUNTER\x7d token; generated numbers may repeat") := by
    decide +kernel
  have hmalformed : (do
      let t ← Template.parse pattern
      t.evaluate (← Scope.forMoment empty.withDefaults .empty moment 1 5)) =
      .error (.malformedBy "Invalid COUNTER width '99'") := by
    decide +kernel
  have hspliced := malformed_at_spliced standard_empty.withDefaults hcheck rfl ⟨_, _, hmalformed⟩
  exact ⟨_, hcheck, rfl, ⟨_, _, hmalformed⟩, hspliced⟩

end Registry

end SerialNumbers
