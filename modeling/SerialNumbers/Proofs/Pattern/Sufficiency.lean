/-
  SerialNumbers.Proofs.Pattern.Sufficiency

  The check of a context against a pattern.  It looks for the variables of the
  raw pattern in the caller's context; evaluation looks for those of the chosen
  branches in the scope.  Where the variables are dependable and every segment
  closes its own braces, a context that is found valid is enough: the pattern
  evaluates to a text, whichever branches are chosen, unless something is too
  long to be written (`Registry.evaluates_of_checkContext`).
-/
import SerialNumbers.Proofs.Pattern.Segment
import SerialNumbers.Proofs.Pattern.Soundness
import SerialNumbers.Proofs.Variable.Coverage
import SerialNumbers.Validation

namespace SerialNumbers

open Pattern Text Time

/-! ## Names of tokens -/

namespace Pattern

theorem upperChars_of_isNameChar {c : Char} (h : isNameChar c = true) : upperChars c = [c] := by
  have hcode : c.toNat < 0x80 ∧ ¬(0x61 ≤ c.toNat ∧ c.toNat ≤ 0x7A) := by
    unfold isNameChar at h
    rw [Bool.or_eq_true, Bool.or_eq_true, beq_iff_eq] at h
    rcases h with (h | h) | rfl
    · have hbounds : 65 ≤ c.toNat ∧ c.toNat ≤ 90 := of_decide_eq_true h
      omega
    · have hhigh : c.toNat ≤ 57 := of_decide_eq_true (Bool.and_eq_true_iff.mp h).2
      omega
    · decide
  unfold upperChars
  dsimp only
  rw [if_pos hcode.1, if_neg (by simpa using hcode.2)]

theorem upperList_of_isNameChar {cs : List Char} (h : ∀ c ∈ cs, isNameChar c = true) :
    upperList cs = cs := by
  induction cs with
  | nil => rfl
  | cons c cs ih =>
    obtain ⟨hc, hcs⟩ := List.forall_mem_cons.mp h
    rw [upperList_cons, upperChars_of_isNameChar hc, ih hcs]
    rfl

theorem nameChars_of_tokenAt? {cs rest : List Char} {t : Token} (h : tokenAt? cs = some (t, rest)) :
    ∀ c ∈ t.name.toList, isNameChar c = true := by
  unfold tokenAt? at h
  split at h
  · split at h
    · obtain ⟨⟨parameter, tail⟩, -, heq⟩ := Option.map_eq_some_iff.mp h
      cases heq
      rw [String.toList_ofList]
      exact fun c hc => List.mem_takeWhile_imp hc
    · cases h
  · cases h

theorem nameChars_of_mem_tokens {cs : List Char} {t : Token} (h : t ∈ tokens cs) :
    ∀ c ∈ t.name.toList, isNameChar c = true := by
  rw [tokens_eq_filterMap] at h
  obtain ⟨inside, -, htoken⟩ := List.mem_filterMap.mp h
  unfold token? at htoken
  split at htoken
  · rename_i t' heq
    cases htoken
    exact nameChars_of_tokenAt? heq
  · cases htoken

/-- A token that is read has its name in upper case. -/
theorem upper_name_of_mem_tokens {cs : List Char} {t : Token} (h : t ∈ tokens cs) :
    upper t.name = t.name := by
  unfold upper
  rw [upperList_of_isNameChar (nameChars_of_mem_tokens h), String.ofList_toList]

end Pattern

/-! ## Findings about a context -/

/-- Where nothing is wrong after a chain of checks, nothing was wrong with any of them. -/
theorem Findings.forall_of_foldl {α : Type} {f : Findings → α → Findings} {p : α → Prop}
    {xs : List α} {found : Findings} (h : (xs.foldl f found).isValid = true)
    (hstep : ∀ found x, (f found x).isValid = true → found.isValid = true ∧ p x) :
    found.isValid = true ∧ ∀ x ∈ xs, p x := by
  induction xs generalizing found with
  | nil => exact ⟨h, List.forall_mem_nil _⟩
  | cons x xs ih =>
    obtain ⟨hnext, hxs⟩ := ih h
    obtain ⟨hfound, hx⟩ := hstep found x hnext
    exact ⟨hfound, List.forall_mem_cons.mpr ⟨hx, hxs⟩⟩

/-- The same where the checks may fail. -/
theorem Findings.forall_of_foldlM {α : Type} {f : Findings → α → Except Failure Findings}
    {p : α → Prop} {xs : List α} {start found : Findings} (h : xs.foldlM f start = .ok found)
    (hvalid : found.isValid = true)
    (hstep : ∀ before x after, f before x = .ok after → after.isValid = true →
      before.isValid = true ∧ p x) :
    start.isValid = true ∧ ∀ x ∈ xs, p x := by
  induction xs generalizing start with
  | nil =>
    cases h
    exact ⟨hvalid, List.forall_mem_nil _⟩
  | cons x xs ih =>
    rw [List.foldlM_cons] at h
    obtain ⟨next, hnext, h⟩ := Except.bind_eq_ok.mp h
    obtain ⟨hnextValid, hxs⟩ := ih h
    obtain ⟨hstart, hx⟩ := hstep start x next hnext hnextValid
    exact ⟨hstart, List.forall_mem_cons.mpr ⟨hx, hxs⟩⟩

namespace Registry

variable {r : Registry} {c : Context}

/-- A registered variable that nothing is wrong with has its keys, and its own check passes. -/
theorem customFindings_isValid {name : String} {v : Variable} {before found : Findings}
    (h : customFindings c name v before = .ok found) (hvalid : found.isValid = true) :
    before.isValid = true ∧ c.missing v.required = [] ∧ v.Accepts c := by
  unfold customFindings at h
  dsimp only at h
  split at h
  · cases h
    rw [Findings.isValid_error] at hvalid
    cases hvalid
  · rename_i hmissing
    rw [Bool.not_eq_true, Bool.not_eq_false', List.isEmpty_iff] at hmissing
    obtain ⟨checked, hchecked, h⟩ := Except.bind_eq_ok.mp h
    cases h
    obtain ⟨hvalid, -⟩ := Findings.forall_of_foldl (p := fun _ => True) hvalid
      fun found w hw => ⟨hw, trivial⟩
    obtain ⟨hbefore, herrors⟩ := Findings.forall_of_foldl (p := fun _ => False) hvalid
      fun found e he => by
        rw [Findings.isValid_error] at he
        cases he
    refine ⟨hbefore, hmissing, checked, hchecked, ?_⟩
    unfold Findings.isValid
    rw [List.isEmpty_iff]
    exact List.eq_nil_iff_forall_not_mem.mpr herrors

theorem variableFindings_isValid {name : String} {before found : Findings}
    (h : r.variableFindings c before name = .ok found) (hvalid : found.isValid = true) :
    before.isValid = true ∧ (Builtin.isReserved (upper name) = false → r.Covers c name) := by
  unfold variableFindings at h
  split at h
  · rename_i hreserved
    cases h
    exact ⟨hvalid, fun hfree => absurd hreserved (by rw [hfree]; decide)⟩
  · unfold Covers
    revert h
    cases r.get? name with
    | some v =>
      intro h
      obtain ⟨hbefore, hcovers⟩ := customFindings_isValid h hvalid
      exact ⟨hbefore, fun _ => hcovers⟩
    | none =>
      intro h
      cases h
      split at hvalid
      · rename_i hhas
        exact ⟨hvalid, fun _ => hhas⟩
      · rw [Findings.isValid_error] at hvalid
        cases hvalid

theorem entryFindings_isValid {used : List String} {found : Findings} {entry : String × Value}
    (h : (entryFindings used found entry).isValid = true) : found.isValid = true := by
  unfold entryFindings at h
  dsimp only at h
  cases hproblem : valueProblem? entry.2 with
  | none =>
    rw [hproblem] at h
    split at h
    · exact h
    · rwa [Findings.isValid_warn] at h
  | some problem =>
    rw [hproblem] at h
    split at h
    · rw [Findings.isValid_error] at h
      cases h
    · rw [Findings.isValid_warn, Findings.isValid_error] at h
      cases h

/-- A context that is found valid covers the variables of the pattern. -/
theorem covers_of_checkContext {pattern : String} {t : Template}
    (hparse : Template.parse pattern = .ok t) {found : Findings}
    (h : r.checkContext c pattern = .ok found) (hvalid : found.isValid = true)
    {token : Token} (htoken : token ∈ t.tokenList)
    (hfree : Builtin.isReserved token.name = false) : r.Covers c token.name := by
  unfold checkContext at h
  rw [hparse] at h
  obtain ⟨checked, hchecked, h⟩ := Except.bind_eq_ok.mp h
  cases h
  obtain ⟨hvalid, -⟩ := Findings.forall_of_foldl (p := fun _ => True) hvalid
    fun found e he => ⟨entryFindings_isValid he, trivial⟩
  obtain ⟨-, hnames⟩ := Findings.forall_of_foldlM hchecked hvalid
    fun before name after => variableFindings_isValid
  have hname : token.name ∈ t.variableNames := by
    unfold Template.variableNames
    rw [List.mem_eraseDups]
    exact List.mem_map_of_mem htoken
  refine hnames token.name hname ?_
  rw [upper_name_of_mem_tokens htoken]
  exact hfree

end Registry

/-! ## The two passes -/

section

variable {fits : Prop}

/-- Tokens are put in as far as each of them can be. -/
theorem Pattern.yields_substitute {text : Token → Except Failure (List Char)} {ps : List Piece}
    (h : ∀ token, .token token ∈ ps → Yields fits (text token)) :
    Yields fits (substitute text ps) := by
  induction ps with
  | nil => exact .result []
  | cons p ps ih =>
    have hmore := ih fun token htoken => h token (List.mem_cons_of_mem _ htoken)
    cases p with
    | char c => exact hmore.bind fun more _ => .result (c :: more)
    | token t =>
      exact (h t List.mem_cons_self).bind fun first _ =>
        hmore.bind fun more _ => .result (first ++ more)

namespace Template

variable {t : Template} {r : Registry} {lookup : String → Except Failure (Option String)}

theorem yields_expandAll {segments : List Segment}
    (hread : ∀ c, .conditional c ∈ segments → ∃ choice, c.checked = .ok choice)
    (hlookup : ∀ name, Yields fits (lookup name)) : Yields fits (expandAll lookup segments) := by
  induction segments with
  | nil => exact .result []
  | cons segment segments ih =>
    have hmore := ih fun c hc => hread c (List.mem_cons_of_mem _ hc)
    have hfirst : Yields fits (expandSegment lookup segment) := by
      cases segment with
      | literal text => exact .result text
      | conditional c =>
        obtain ⟨choice, hchoice⟩ := hread c List.mem_cons_self
        show Yields fits (c.checked >>= _)
        rw [hchoice, Except.ok_bind]
        exact (hlookup _).bind fun value _ => .result _
    exact hfirst.bind fun first _ => hmore.bind fun more _ => .result (first ++ more)

/-- A template that nothing is wrong with is expanded as far as its conditions can be decided. -/
theorem yields_expand (ht : r.Passes t) (hlookup : ∀ name, Yields fits (lookup name)) :
    Yields fits (t.expand lookup) := by
  unfold expand
  rw [ht.closed]
  refine yields_expandAll (fun c hc => ?_) hlookup
  obtain ⟨choice, -, hchoice⟩ := ht.readable c hc
  exact ⟨choice, hchoice⟩

end Template

end

/-! ## Whole patterns -/

/-- All that an evaluation may have to write can be written: a counter and a padding of not too
    many digits, as many zeros as the padding asks for, and the values of the context. -/
structure Context.Fits (c : Context) (counter padding : Int) : Prop where
  count : Number.Writable counter
  width : Number.Writable padding
  room : Roomy padding
  values : c.Renderable

/-- An evaluation at a moment of a known zone has a scope, unless one of its numbers is too long. -/
theorem Scope.yields_forMoment (r : Registry) (c : Context) {moment : Moment} {zone : Zone}
    (hzone : moment.zone = some zone) (counter padding : Int) :
    Yields (c.Fits counter padding) (forMoment r c moment counter padding) := by
  obtain ⟨seconds, hseconds⟩ : ∃ seconds, moment.epochSeconds = .ok seconds := by
    unfold Moment.epochSeconds
    rw [hzone]
    exact ⟨_, rfl⟩
  have hcounter : Yields (c.Fits counter padding) (Number.written counter) :=
    (Number.yields_written counter).imp Context.Fits.count
  have hpadding : Yields (c.Fits counter padding) (Number.written padding) :=
    (Number.yields_written padding).imp Context.Fits.width
  unfold forMoment Occasion.at
  rw [hseconds, Except.ok_bind]
  exact (hcounter.bind fun n _ => hpadding.bind fun w _ => .result _).bind fun o _ => .result _

namespace Registry

variable {r : Registry} {c : Context} {t : Template} {pattern : String}

/-- Whatever a conditional is decided by, the tokens of the expanded text stand for texts. -/
theorem resolves_expanded (hr : r.Dependable) (ht : r.Passes t)
    (hparse : Template.parse pattern = .ok t) (hbalanced : t.SegmentBalanced) (hc : c.Keyed)
    {found : Findings} (hcontext : r.checkContext c pattern = .ok found)
    (hvalid : found.isValid = true) (o : Occasion)
    {lookup : String → Except Failure (Option String)} {expanded : List Char}
    (hexpand : t.expand lookup = .ok expanded) {token : Token} (htoken : token ∈ tokens expanded) :
    Yields (c.Fits o.counter o.padding) ((Scope.of r c o).resolve token) := by
  obtain ⟨text, htext, hmem⟩ := hbalanced.mem_tokens ht hexpand htoken
  have hcovers (hfree : Builtin.isReserved token.name = false) : r.Covers c token.name :=
    covers_of_checkContext hparse hcontext hvalid (Template.mem_tokenList hparse htext hmem) hfree
  exact (Scope.resolve_of_covers hr hc (ht.admits htext hmem) hcovers).imp
    fun hfits => ⟨hfits.values, hfits.room⟩

/-- A context that is found valid for a valid pattern is enough to evaluate it, with every
    counter and padding and at every moment of a known zone: the pattern evaluates to a text, and
    the tokens of every text that it can expand to, whichever branches are chosen, stand for texts.
    All that can go wrong is that something is too long, and only where not all that may be put
    into the number can be written. -/
theorem evaluates_of_checkContext (hr : r.Dependable) {found : Findings}
    (hcheck : r.checkSyntax pattern = .ok found) (hvalid : found.isValid = true)
    (hparse : Template.parse pattern = .ok t) (hbalanced : t.SegmentBalanced)
    {pairs : List (String × Value)} {checked : Findings}
    (hcontext : r.checkContext (Context.ofPairs pairs) pattern = .ok checked)
    (hchecked : checked.isValid = true) {moment : Moment} {zone : Zone}
    (hzone : moment.zone = some zone) (counter padding : Int) :
    let c := Context.ofPairs pairs
    Yields (c.Fits counter padding) (do
      let t ← Template.parse pattern
      t.evaluate (← Scope.forMoment r c moment counter padding)) ∧
    ∀ s, Scope.forMoment r c moment counter padding = .ok s →
      ∀ lookup expanded, t.expand lookup = .ok expanded →
        ∀ token ∈ tokens expanded, Yields (c.Fits counter padding) (s.resolve token) := by
  intro c
  obtain ⟨t', hparse', ht⟩ := checkSyntax_passes hcheck hvalid
  cases hparse.symm.trans hparse'
  have hkeyed : c.Keyed := Context.keyed_ofPairs pairs
  have hresolve (s) (hs : Scope.forMoment r c moment counter padding = .ok s) (lookup expanded)
      (hexpand : t.expand lookup = .ok expanded) (token) (htoken : token ∈ tokens expanded) :
      Yields (c.Fits counter padding) (s.resolve token) := by
    obtain ⟨o, ho, rfl⟩ := Scope.forMoment_eq_ok.mp hs
    obtain ⟨-, -, rfl, rfl⟩ := Occasion.at_eq_ok.mp ho
    exact resolves_expanded hr ht hparse hbalanced hkeyed hcontext hchecked o hexpand htoken
  refine ⟨?_, hresolve⟩
  rw [hparse, Except.ok_bind]
  refine (Scope.yields_forMoment r c hzone counter padding).bind fun s hs => ?_
  have hlookup (name : String) : Yields (c.Fits counter padding) (s.lookup name) := by
    obtain ⟨o, -, rfl⟩ := Scope.forMoment_eq_ok.mp hs
    exact (Scope.lookup_of_dependable (s := Scope.of r c o) hr name).imp
      fun hfits => Scope.renderable_of r o hkeyed hfits.values
  refine (Template.yields_expand ht hlookup).bind fun expanded hexpand => ?_
  refine (yields_substitute fun token hpiece => ?_).bind fun text _ => .result _
  exact (hresolve s hs _ expanded hexpand token (mem_tokens hpiece)).bind fun text _ => .result _

/-- Both branches of the conditional need a registered variable, and the context spells a key of
    the engine: valid, and evaluated with the engine's own year. -/
theorem evaluates_of_checkContext_branches :
    let region := Variable.plain "REGION" "" ["region"] [] ["SHORT"] none
      (Variable.fromKey "region")
    let r : Registry := ⟨⟨(region :: Stock.all).map fun v => (v.name, v)⟩⟩
    let pattern := "\x7b?TIER=GOLD?\x7bREGION:SHORT\x7d:\x7bDEPARTMENT\x7d\x7d-\x7bCLIENT:6\x7d-" ++
      "\x7bYEAR\x7d-\x7bCOUNTER:4\x7d"
    let pairs := [("region", Value.text "eu"), ("department_code", .text "sales"),
      ("client", .whole 42), ("Year", .text "1999"), ("tier", .text "GOLD")]
    let moment : Moment := ⟨Moment.midnight ⟨2024, 1, 1⟩, some .utc, false⟩
    r.Dependable ∧ r.checkSyntax pattern = .ok Findings.none ∧
      (∃ t, Template.parse pattern = .ok t ∧ t.SegmentBalanced) ∧
      (∃ checked, r.checkContext (Context.ofPairs pairs) pattern = .ok checked ∧
        checked.isValid = true) ∧
      (Context.ofPairs pairs).Fits 7 5 ∧
      (∃ text, (do
        let t ← Template.parse pattern
        t.evaluate (← Scope.forMoment r (Context.ofPairs pairs) moment 7 5)) = .ok text) := by
  intro region r pattern pairs moment
  have hregion : region.FromKeys := by
    refine ⟨⟨_, _, rfl⟩, fun _ => rfl, fun c hmissing => ?_⟩
    have hhas : (c.get? "region").isSome = true := by
      have hkey := List.filter_eq_nil_iff.mp hmissing "region" List.mem_cons_self
      rwa [Bool.not_eq_true, Bool.not_eq_false', Context.has_eq_isSome] at hkey
    obtain ⟨value, hvalue⟩ := Option.isSome_iff_exists.mp hhas
    show Yields c.Renderable (Variable.fromKey "region" c)
    unfold Variable.fromKey
    rw [hvalue]
    exact ((Value.yields_shown value).imp fun hrender => hrender "region" value hvalue).map upper
  have hr : r.Dependable := by
    refine dependable_of_entries fun e he => ?_
    obtain ⟨v, hv, rfl⟩ := List.mem_map.mp he
    rcases List.mem_cons.mp hv with rfl | hv
    · exact .inr hregion
    · exact .inl hv
  have hcheck : r.checkSyntax pattern = .ok Findings.none := by decide +kernel
  obtain ⟨checked, hcontext, hchecked⟩ : ∃ checked,
      r.checkContext (Context.ofPairs pairs) pattern = .ok checked ∧ checked.isValid = true := by
    have hvalid : (r.checkContext (Context.ofPairs pairs) pattern).toOption.map (·.isValid) =
        some true := by decide +kernel
    obtain ⟨checked, hok, hchecked⟩ := Option.map_eq_some_iff.mp hvalid
    exact ⟨checked, Except.eq_ok_of_toOption hok, hchecked⟩
  have hrender : (Context.ofPairs pairs).Renderable := by
    refine Context.renderable_ofPairs fun e he => ?_
    have hall : ∀ e ∈ pairs, e.2.rendered.toOption.isSome = true := by decide +kernel
    obtain ⟨text, htext⟩ := Option.isSome_iff_exists.mp (hall e he)
    exact ⟨text, Except.eq_ok_of_toOption htext⟩
  obtain ⟨t, hparse, hbalanced⟩ : ∃ t, Template.parse pattern = .ok t ∧ t.SegmentBalanced := by
    refine ⟨⟨pattern, (Pattern.segments pattern.toList).1, (Pattern.segments pattern.toList).2⟩,
      ?_, ?_⟩
    · decide +kernel
    · decide +kernel
  have hfits : (Context.ofPairs pairs).Fits 7 5 :=
    ⟨by decide +kernel, by decide +kernel, by decide, hrender⟩
  exact ⟨hr, hcheck, ⟨t, hparse, hbalanced⟩, ⟨checked, hcontext, hchecked⟩, hfits,
    (evaluates_of_checkContext hr hcheck rfl hparse hbalanced hcontext hchecked rfl
      7 5).1.exists_ok hfits⟩

/-- What cannot be written is not evaluated, though a valid pattern has a context that is found
    valid: a decimal in a condition the positional form of which is longer than all texts, a counter
    of too many digits, and paddings that are beyond all widths. -/
theorem checkContext_insufficient :
    let r := Registry.empty.withDefaults
    let noted := "\x7b?NOTE?A:B\x7d-\x7bCOUNTER\x7d"
    let plain := "\x7bCOUNTER\x7d"
    let pairs := [("note", Value.decimal (.finite ⟨false, 1, 999999999999999999⟩))]
    let moment : Moment := ⟨Moment.midnight ⟨2024, 1, 1⟩, some .utc, false⟩
    let evaluation (pattern : String) (pairs : List (String × Value)) (counter padding : Int) :
        Except Failure String := do
      let t ← Template.parse pattern
      t.evaluate (← Scope.forMoment r (Context.ofPairs pairs) moment counter padding)
    r.Dependable ∧
      (∃ t, Template.parse noted = .ok t ∧ t.SegmentBalanced) ∧
      r.checkSyntax noted = .ok Findings.none ∧
      r.checkContext (Context.ofPairs pairs) noted = .ok Findings.none ∧
      evaluation noted pairs 1 5 = .error .outOfMemory ∧
      (∃ t, Template.parse plain = .ok t ∧ t.SegmentBalanced) ∧
      r.checkSyntax plain = .ok Findings.none ∧
      r.checkContext .empty plain = .ok Findings.none ∧
      evaluation plain [] digitBound 5 = .error .longWhole ∧
      evaluation plain [] 1 widthBound = .error .widthOverflow ∧
      evaluation plain [] 1 (-widthBound - 1) = .error .widthOverflow := by
  intro r noted plain pairs moment evaluation
  have hr : r.Dependable := dependable_of_entries fun e he => by
    have hstock : r.byName.entries = Stock.all.map fun v => (v.name, v) := rfl
    rw [hstock] at he
    obtain ⟨v, hv, rfl⟩ := List.mem_map.mp he
    exact .inl hv
  have hnoted : ∃ t, Template.parse noted = .ok t ∧ t.SegmentBalanced := by
    refine ⟨⟨noted, (Pattern.segments noted.toList).1, (Pattern.segments noted.toList).2⟩, ?_, ?_⟩
    · decide +kernel
    · decide +kernel
  have hplain : ∃ t, Template.parse plain = .ok t ∧ t.SegmentBalanced := by
    refine ⟨⟨plain, (Pattern.segments plain.toList).1, (Pattern.segments plain.toList).2⟩, ?_, ?_⟩
    · decide +kernel
    · decide +kernel
  exact ⟨hr, hnoted, by decide +kernel, by decide +kernel, by decide +kernel, hplain,
    by decide +kernel, by decide +kernel, by decide +kernel, by decide +kernel,
    by decide +kernel⟩

end Registry

end SerialNumbers
