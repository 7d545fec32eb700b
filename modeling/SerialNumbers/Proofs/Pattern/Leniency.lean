/-
  SerialNumbers.Proofs.Pattern.Leniency

  Evaluation as far as it is possible.  A preview takes the same two passes as an
  evaluation, and softens each question that it asks of the scope: a variable that
  cannot be evaluated has no value for a condition, and a token that cannot be
  evaluated stays as it is written.

  Main statement: a preview agrees with the evaluation wherever that does not fail
  to find a value, never fails so itself, and its text is known character by
  character (`Template.preview_refines_evaluate`).
-/
import SerialNumbers.Pattern.Evaluation
import SerialNumbers.Proofs.Pattern.Token
import SerialNumbers.Proofs.Variable.Parameter

namespace SerialNumbers

open Pattern Time

/-! ## Softened results -/

section

variable {α β : Type} {x y : Except Failure α}

/-- The result is that something cannot be evaluated in the context. -/
def FailsToEvaluate (x : Except Failure α) : Prop :=
  ∃ cause, x = .error (.evaluation cause)

theorem not_failsToEvaluate_ok (a : α) : ¬FailsToEvaluate (.ok a) := by
  rintro ⟨cause, h⟩
  cases h

/-- There is a value, or there is none in this context; nothing else is wrong. -/
def Mild (x : Except Failure α) : Prop :=
  (∃ a, x = .ok a) ∨ FailsToEvaluate x

theorem failsToEvaluate_bind {f : α → Except Failure β} :
    FailsToEvaluate (x >>= f) ↔ FailsToEvaluate x ∨ ∃ a, x = .ok a ∧ FailsToEvaluate (f a) := by
  unfold FailsToEvaluate
  simp only [Except.bind_eq_error]
  constructor
  · rintro ⟨cause, h | ⟨a, ha, h⟩⟩
    · exact .inl ⟨cause, h⟩
    · exact .inr ⟨a, ha, cause, h⟩
  · rintro (⟨cause, h⟩ | ⟨a, ha, cause, h⟩)
    · exact ⟨cause, .inl h⟩
    · exact ⟨cause, .inr ⟨a, ha, h⟩⟩

/-- A result in which the failure to evaluate gives way to a value. -/
def soften (fallback : α) : Except Failure α → Except Failure α
  | .ok a => .ok a
  | .error e => if e.isEvaluation then .ok fallback else .error e

/-- The second result never fails to evaluate, and is the first one unless that does. -/
structure Softens (x y : Except Failure α) : Prop where
  agrees : y = x ∨ FailsToEvaluate x
  settled : ¬FailsToEvaluate y

theorem softens_self (h : ¬FailsToEvaluate x) : Softens x x :=
  ⟨.inl rfl, h⟩

theorem softens_ok (a : α) : Softens (.ok a) (.ok a) :=
  softens_self (not_failsToEvaluate_ok a)

theorem softens_soften (fallback : α) : Softens x (soften fallback x) := by
  cases x with
  | ok b => exact softens_ok b
  | error e =>
    cases e with
    | evaluation cause => exact ⟨.inr ⟨cause, rfl⟩, not_failsToEvaluate_ok fallback⟩
    | _ => exact softens_self nofun

/-- Softening the steps of a chain softens the chain. -/
theorem Softens.bind {f g : α → Except Failure β} (h : Softens x y)
    (hf : ∀ a, Softens (f a) (g a)) : Softens (x >>= f) (y >>= g) := by
  constructor
  · rcases h.agrees with rfl | h
    · cases y with
      | error e => exact .inl rfl
      | ok a => exact (hf a).agrees
    · exact .inr (failsToEvaluate_bind.mpr (.inl h))
  · intro hfails
    rcases failsToEvaluate_bind.mp hfails with hfails | ⟨a, -, hfails⟩
    · exact h.settled hfails
    · exact (hf a).settled hfails

/-- The result is a value just under this condition, and then it is this value. -/
def ComesTo (x : Except Failure α) (condition : Prop) (a : α) : Prop :=
  ∀ b, x = .ok b ↔ condition ∧ b = a

theorem comesTo_ok (a : α) : ComesTo (.ok a) True a := by
  intro b
  rw [true_and, Except.ok.injEq, eq_comm]

theorem comesTo_soften (fallback : α) :
    ComesTo (soften fallback x) (Mild x) (x.toOption.getD fallback) := by
  intro b
  unfold Mild FailsToEvaluate
  cases x with
  | ok b => simp [soften, Except.toOption, eq_comm]
  | error e => cases e <;> simp [soften, Failure.isEvaluation, Except.toOption, eq_comm]

/-- A chain comes to what its second step comes to, under both conditions. -/
theorem ComesTo.bind {f : α → Except Failure β} {p q : Prop} {a : α} {b : β}
    (hx : ComesTo x p a) (hf : ComesTo (f a) q b) : ComesTo (x >>= f) (p ∧ q) b := by
  intro b'
  rw [Except.bind_eq_ok]
  constructor
  · rintro ⟨a', ha', h⟩
    obtain ⟨hp, rfl⟩ := (hx a').mp ha'
    obtain ⟨hq, hb⟩ := (hf b').mp h
    exact ⟨⟨hp, hq⟩, hb⟩
  · rintro ⟨⟨hp, hq⟩, hb⟩
    exact ⟨a, (hx a).mpr ⟨hp, rfl⟩, (hf b').mpr ⟨hq, hb⟩⟩

theorem ComesTo.map {p : Prop} {a : α} (h : ComesTo x p a) (f : α → β) :
    ComesTo (do return f (← x)) p (f a) := by
  intro b
  rw [Except.bind_eq_ok]
  constructor
  · rintro ⟨a', ha', hb⟩
    obtain ⟨hp, rfl⟩ := (h a').mp ha'
    exact ⟨hp, (Except.ok.inj hb).symm⟩
  · rintro ⟨hp, rfl⟩
    exact ⟨a, (h a).mpr ⟨hp, rfl⟩, rfl⟩

theorem ComesTo.of_iff {p q : Prop} {a : α} (h : ComesTo x p a) (hpq : p ↔ q) : ComesTo x q a := by
  intro b
  rw [h b, hpq]

end

namespace Scope

/-- What a condition sees of a variable, if it cannot fail. -/
def seen (s : Scope) (name : String) : Option String :=
  (s.lookup name).toOption.getD none

/-- What stands for a piece of text: a token that resolves gives way to its text, everything
    else is as it is written. -/
def shown (s : Scope) : Piece → List Char
  | .char c => [c]
  | .token t => ((s.resolve t).toOption.map String.toList).getD t.text

end Scope

namespace Template

variable {s : Scope} {t : Template}

/-! ## The first pass -/

/-- A conditional that cannot be read is a fault of the pattern. -/
theorem not_failsToEvaluate_checked (c : Conditional) : ¬FailsToEvaluate c.checked := by
  rintro ⟨cause, h⟩
  unfold Conditional.checked at h
  split at h
  · split at h
    · cases h
    · cases h
  · cases h

theorem lenientLookup_eq (s : Scope) (name : String) :
    lenientLookup s name = soften none (s.lookup name) := by
  unfold lenientLookup soften
  cases s.lookup name <;> rfl

theorem comesTo_lenientLookup (s : Scope) (name : String) :
    ComesTo (lenientLookup s name) (Mild (s.lookup name)) (s.seen name) := by
  rw [lenientLookup_eq]
  exact comesTo_soften none

/-- The text of a segment once its condition has been decided by what it sees. -/
def chosen (s : Scope) : Segment → List Char
  | .literal text => text
  | .conditional c =>
    c.checked.toOption.elim [] fun choice =>
      choice.branch (choice.condition.holds (s.seen choice.condition.subject))

/-- The conditional can be read, and its variable has a value or none. -/
def Decides (s : Scope) (c : Conditional) : Prop :=
  ∃ choice, c.checked = .ok choice ∧ Mild (s.lookup choice.condition.subject)

/-- A segment comes to its chosen text if its condition can be decided. -/
theorem comesTo_expandSegment (s : Scope) (segment : Segment) :
    ComesTo (expandSegment (lenientLookup s) segment)
      (∀ c, segment = .conditional c → Decides s c) (chosen s segment) := by
  cases segment with
  | literal text => exact (comesTo_ok text).of_iff ⟨fun _ => nofun, fun _ => trivial⟩
  | conditional c =>
    unfold Decides
    cases hchecked : c.checked with
    | error e =>
      -- A conditional that cannot be read comes to nothing, and decides nothing.
      intro text
      constructor
      · intro h
        obtain ⟨choice, hchoice, -⟩ := Except.bind_eq_ok.mp h
        rw [hchecked] at hchoice
        cases hchoice
      · rintro ⟨h, -⟩
        obtain ⟨choice, hchoice, -⟩ := h c rfl
        rw [hchecked] at hchoice
        cases hchoice
    | ok choice =>
      have hsegment := (comesTo_lenientLookup s choice.condition.subject).map fun value =>
        choice.branch (choice.condition.holds value)
      unfold expandSegment chosen
      dsimp only
      rw [hchecked]
      refine hsegment.of_iff ⟨?_, ?_⟩
      · intro hmild c' hc'
        cases hc'
        exact ⟨choice, hchecked, hmild⟩
      · intro h
        obtain ⟨choice', hchoice', hmild⟩ := h c rfl
        cases hchecked.symm.trans hchoice'
        exact hmild

theorem comesTo_expandAll (s : Scope) (segments : List Segment) :
    ComesTo (expandAll (lenientLookup s) segments)
      (∀ c, .conditional c ∈ segments → Decides s c) (segments.flatMap (chosen s)) := by
  induction segments with
  | nil => exact (comesTo_ok []).of_iff ⟨fun _ => nofun, fun _ => trivial⟩
  | cons segment segments ih =>
    refine ((comesTo_expandSegment s segment).bind (ih.map (chosen s segment ++ ·))).of_iff ?_
    simp [or_imp, forall_and, eq_comm]

theorem softens_expandAll {strict lenient : String → Except Failure (Option String)}
    (h : ∀ name, Softens (strict name) (lenient name)) (segments : List Segment) :
    Softens (expandAll strict segments) (expandAll lenient segments) := by
  induction segments with
  | nil => exact softens_ok []
  | cons segment segments ih =>
    refine Softens.bind ?_ fun first => ih.bind fun more => softens_ok _
    cases segment with
    | literal text => exact softens_ok text
    | conditional c =>
      exact (softens_self (not_failsToEvaluate_checked c)).bind fun choice =>
        (h _).bind fun value => softens_ok _

/-! ## The second pass -/

theorem lenientText_eq (s : Scope) (token : Token) :
    lenientText s token = soften token.text (do return (← s.resolve token).toList) := by
  unfold lenientText soften
  cases s.resolve token <;> rfl

theorem comesTo_lenientText (s : Scope) (token : Token) :
    ComesTo (lenientText s token) (Mild (s.resolve token)) (s.shown (.token token)) := by
  have htext := comesTo_soften (x := do return (← s.resolve token).toList) token.text
  rw [← lenientText_eq] at htext
  unfold Scope.shown
  unfold Mild FailsToEvaluate at htext ⊢
  cases h : s.resolve token <;>
    simpa [h, bind, Except.bind, pure, Except.pure, Except.toOption] using htext

theorem comesTo_substitute (s : Scope) (ps : List Piece) :
    ComesTo (substitute (lenientText s) ps)
      (∀ token, .token token ∈ ps → Mild (s.resolve token)) (ps.flatMap s.shown) := by
  induction ps with
  | nil => exact (comesTo_ok []).of_iff ⟨fun _ => nofun, fun _ => trivial⟩
  | cons p ps ih =>
    cases p with
    | char c =>
      refine (ih.map (c :: ·)).of_iff ?_
      simp
    | token t =>
      refine ((comesTo_lenientText s t).bind (ih.map (s.shown (.token t) ++ ·))).of_iff ?_
      simp [or_imp, forall_and]

theorem softens_substitute {strict lenient : Token → Except Failure (List Char)}
    (h : ∀ token, Softens (strict token) (lenient token)) (ps : List Piece) :
    Softens (substitute strict ps) (substitute lenient ps) := by
  induction ps with
  | nil => exact softens_ok []
  | cons p ps ih =>
    cases p with
    | char c => exact ih.bind fun more => softens_ok _
    | token t => exact (h t).bind fun first => ih.bind fun more => softens_ok _

/-! ## Previews -/

/-- A preview does what the evaluation does unless that fails to find a value, and does not fail to
    find one. -/
theorem softens_preview (t : Template) (s : Scope) : Softens (t.evaluate s) (t.preview s) := by
  have hlookup (name : String) : Softens (s.lookup name) (lenientLookup s name) := by
    rw [lenientLookup_eq]
    exact softens_soften none
  have hexpand : Softens (t.expand s.lookup) (t.expand (lenientLookup s)) := by
    unfold expand
    split
    · refine softens_self ?_
      rintro ⟨cause, h⟩
      cases h
    · exact softens_expandAll hlookup t.segments
  refine hexpand.bind fun expanded => Softens.bind (softens_substitute (fun token => ?_) _)
    fun text => softens_ok _
  rw [lenientText_eq]
  exact softens_soften token.text

/-- The text that is left of a template when each condition has been decided by what it sees. -/
def expandedBy (t : Template) (s : Scope) : List Char :=
  t.segments.flatMap (chosen s)

/-- The text is what a template comes to in a scope as far as that is possible: every conditional
    can be read and gives way to the branch of what its condition sees, and every token that is
    left then gives way to its text if it resolves, and stays as it is written if it has none. -/
structure FilledBy (t : Template) (s : Scope) (text : String) : Prop where
  closed : t.unclosed = none
  decides : ∀ c, .conditional c ∈ t.segments → Decides s c
  mild : ∀ token, .token token ∈ pieces (t.expandedBy s) → Mild (s.resolve token)
  written : text.toList = (pieces (t.expandedBy s)).flatMap s.shown

theorem preview_eq_ok {text : String} : t.preview s = .ok text ↔ t.FilledBy s text := by
  have hexpand : ComesTo (t.expand (lenientLookup s))
      (t.unclosed = none ∧ ∀ c, .conditional c ∈ t.segments → Decides s c) (t.expandedBy s) := by
    unfold expand
    cases hunclosed : t.unclosed with
    | some position =>
      intro text
      constructor
      · intro h
        cases h
      · rintro ⟨⟨h, -⟩, -⟩
        cases h
    | none => exact (comesTo_expandAll s t.segments).of_iff ⟨fun h => ⟨rfl, h⟩, fun h => h.2⟩
  have hpreview : ComesTo (t.preview s) _ _ :=
    hexpand.bind ((comesTo_substitute s (pieces (t.expandedBy s))).map String.ofList)
  refine (hpreview text).trans ?_
  constructor
  · rintro ⟨⟨⟨hclosed, hdecides⟩, hmild⟩, rfl⟩
    exact ⟨hclosed, hdecides, hmild, String.toList_ofList⟩
  · rintro ⟨hclosed, hdecides, hmild, hwritten⟩
    refine ⟨⟨⟨hclosed, hdecides⟩, hmild⟩, ?_⟩
    rw [← hwritten, String.ofList_toList]

/-! ## Whole patterns -/

theorem not_failsToEvaluate_parse (pattern : String) : ¬FailsToEvaluate (parse pattern) := by
  rintro ⟨cause, h⟩
  unfold parse at h
  split at h
  · cases h
  · split at h
    · cases h
    · cases h

/-- For every pattern, context, counter value and moment: what the evaluation returns the preview
    returns, where the evaluation finds the pattern malformed the preview finds it so with the same
    errors, and the preview itself never fails to evaluate a variable, neither in a condition nor in
    a token.  Its texts are just those that the template comes to as far as that is possible. -/
theorem preview_refines_evaluate (r : Registry) (c : Context) (pattern : String)
    (moment : Moment) (counter padding : Int) :
    let evaluation := do
      let t ← parse pattern
      t.evaluate (← Scope.forMoment r c moment counter padding)
    let preview := do
      let t ← parse pattern
      t.preview (← Scope.forMoment r c moment counter padding)
    (∀ text, evaluation = .ok text → preview = .ok text) ∧
    (∀ message errors, evaluation = .error (.malformed message errors) →
      preview = .error (.malformed message errors)) ∧
    (∀ cause, preview ≠ .error (.evaluation cause)) ∧
    ∀ text, preview = .ok text ↔ ∃ t s, parse pattern = .ok t ∧
      Scope.forMoment r c moment counter padding = .ok s ∧ t.FilledBy s text := by
  intro evaluation preview
  have hscope : ¬FailsToEvaluate (Scope.forMoment r c moment counter padding) := by
    rintro ⟨cause, h⟩
    rcases Scope.forMoment_error h with ⟨year, hyear⟩ | ⟨-, hlong⟩
    · cases hyear
    · cases hlong
  -- Reading the pattern and taking the moment are steps that both have in common.
  have hsoftens : Softens evaluation preview :=
    (softens_self (not_failsToEvaluate_parse pattern)).bind fun t =>
      (softens_self hscope).bind fun s => t.softens_preview s
  refine ⟨fun text h => ?_, fun message errors h => ?_, fun cause h => hsoftens.settled ⟨cause, h⟩,
    fun text => ?_⟩
  · rcases hsoftens.agrees with heq | ⟨cause, hfails⟩
    · exact heq.trans h
    · cases h.symm.trans hfails
  · rcases hsoftens.agrees with heq | ⟨cause, hfails⟩
    · exact heq.trans h
    · cases h.symm.trans hfails
  · constructor
    · intro h
      obtain ⟨t, ht, h⟩ := Except.bind_eq_ok.mp h
      obtain ⟨s, hs, h⟩ := Except.bind_eq_ok.mp h
      exact ⟨t, s, ht, hs, preview_eq_ok.mp h⟩
    · rintro ⟨t, s, ht, hs, hfilled⟩
      exact Except.bind_eq_ok.mpr ⟨t, ht, Except.bind_eq_ok.mpr ⟨s, hs, preview_eq_ok.mpr hfilled⟩⟩

/-- A variable that refuses its plain value, in a condition and with a parameter in a token, between
    a name that nothing has and values of the engine. -/
theorem preview_refines_evaluate_refused :
    let r : Registry := ⟨Registry.empty.byName.insert "SECRET"
      (.unlisted "SECRET" "x" (some "no value"))⟩
    let pattern := "\x7b?Secret=X?\x7bCLIENT\x7d:\x7bSECRET\x7d/\x7bCLIENT:UPPER\x7d\x7d-" ++
      "\x7bSECRET:7\x7d-\x7bCOUNTER:3\x7d"
    let moment : Moment := ⟨Moment.midnight ⟨2024, 1, 1⟩, some .utc, false⟩
    (do
      let t ← parse pattern
      t.evaluate (← Scope.forMoment r .empty moment 7 5)) =
      .error (.evaluation (.refused "no value")) ∧
    ∃ t s, parse pattern = .ok t ∧ Scope.forMoment r .empty moment 7 5 = .ok s ∧
      t.FilledBy s "\x7bSECRET\x7d/\x7bCLIENT:UPPER\x7d-x~7-007" := by
  intro r pattern moment
  have hpreview : (do
      let t ← parse pattern
      t.preview (← Scope.forMoment r .empty moment 7 5)) =
      .ok "\x7bSECRET\x7d/\x7bCLIENT:UPPER\x7d-x~7-007" := by decide +kernel
  obtain ⟨-, -, -, htexts⟩ := preview_refines_evaluate r .empty pattern moment 7 5
  exact ⟨by decide +kernel, (htexts _).mp hpreview⟩

end Template

end SerialNumbers
