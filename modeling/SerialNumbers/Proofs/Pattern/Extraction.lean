/-
  SerialNumbers.Proofs.Pattern.Extraction

  The variables of a pattern.  They are read from the pattern as it is written,
  so each segment adds its own; a conditional adds those of its condition too,
  when the operand holds braces.  The check warns where it finds no counter among
  them.  Main statement: when the variables are those of the literal text and of
  the branches, and when it is told rightly whether an expansion has a counter
  (`Registry.tokenList_extracted`).
-/
import SerialNumbers.Proofs.Pattern.Nesting
import SerialNumbers.Proofs.Pattern.Rendering
import SerialNumbers.Proofs.Pattern.Splitting

namespace SerialNumbers

open Pattern Text

namespace Pattern

variable {cs xs ys rest first second : List Char} {token : Token}

/-! ## Tokens in a longer text -/

/-- A brace that opens ends the search for the end of a token before it. -/
theorem braceBodies_append_open (xs ys : List Char) : braceBodies (xs ++ '\x7b' :: ys) =
    braceBodies xs ++ braceBodies ('\x7b' :: ys) := by
  fun_induction braceBodies xs with
  | case1 => rfl
  | case2 c cs hc tail hclosed ih =>
    obtain ⟨inside, hplain, rfl⟩ := plain_of_dropWhile hclosed
    rw [beq_iff_eq.mp hc, takeWhile_plain hplain, List.cons_append, List.append_assoc,
      List.cons_append, braceBodies_closed hplain, ih, List.cons_append]
  | case3 c cs hc hopen ih =>
    have hopen (tail : List Char) :
        (cs ++ '\x7b' :: ys).dropWhile isPlainChar ≠ '\x7d' :: tail := by
      rw [List.dropWhile_append]
      split
      · rw [List.dropWhile_cons_of_neg (by decide)]
        rintro ⟨⟩
      · cases hbrace : cs.dropWhile isPlainChar with
        | nil =>
          rename_i hnonempty
          exact absurd (List.isEmpty_iff.mpr hbrace) hnonempty
        | cons d more =>
          intro heq
          rw [(List.cons.inj heq).1] at hbrace
          exact hopen more hbrace
    rw [beq_iff_eq.mp hc, List.cons_append, braceBodies_open hopen, ih]
  | case4 c cs hc ih =>
    rw [beq_iff_eq] at hc
    rw [List.cons_append, braceBodies_cons_of_ne hc, ih]

theorem tokens_append_open (xs ys : List Char) :
    tokens (xs ++ '\x7b' :: ys) = tokens xs ++ tokens ('\x7b' :: ys) := by
  rw [tokens_eq_filterMap, tokens_eq_filterMap, tokens_eq_filterMap, braceBodies_append_open,
    List.filterMap_append]

/-! ## Conditionals -/

/-- The branches of a text that closes its braces close theirs. -/
theorem balanced_of_splitBranches {depth : Nat} (h : balancedFrom depth cs = true)
    (hsplit : splitBranches depth cs = (first, second)) :
    balancedFrom depth first = true ∧ isBalanced second = true := by
  induction cs generalizing depth first second with
  | nil =>
    cases hsplit
    exact ⟨h, rfl⟩
  | cons c cs ih =>
    unfold splitBranches at hsplit
    split at hsplit
    · rename_i hcolon
      cases hsplit
      obtain ⟨hc, hdepth⟩ := Bool.and_eq_true_iff.mp hcolon
      have hdepth : depth = 0 := by simpa using hdepth
      subst hdepth
      rw [beq_iff_eq.mp hc, balancedFrom_plain rfl] at h
      exact ⟨rfl, h⟩
    · dsimp only at hsplit
      cases hsplit
      obtain rfl | rfl | hplain := brace_or_plain c
      · rw [balancedFrom_open] at h ⊢
        exact ih h rfl
      · cases depth with
        | zero => cases h
        | succ depth =>
          rw [balancedFrom_close] at h ⊢
          have hdepth : ((depth + 1 : Nat) : Int) - 1 = depth := by omega
          simp only [show ('\x7d' == '\x7b') = false from rfl, Bool.false_eq_true, if_false,
            beq_self_eq_true, if_true, hdepth]
          exact ih h rfl
      · obtain ⟨hopen, hclose⟩ := isPlainChar_iff.mp hplain
        rw [balancedFrom_plain hplain] at h ⊢
        simp only [beq_iff_eq, hopen, hclose, if_false]
        exact ih h rfl

/-- Splitting branches keeps the tokens of a text that closes its braces. -/
theorem tokens_of_splitBranches (h : isBalanced cs = true)
    (hsplit : splitBranches 0 cs = (first, second)) :
    tokens cs = tokens first ++ tokens second := by
  obtain ⟨hfirst, -⟩ := @balanced_of_splitBranches cs first second 0 h hsplit
  rcases text_of_splitBranches hsplit with rfl | ⟨rfl, rfl⟩
  · have hcolon : ∀ c ∈ [':'], c ≠ '\x7b' := List.forall_mem_singleton.mpr (by decide)
    rw [tokens_append hfirst]
    exact congrArg (tokens first ++ ·) (tokens_append_of_ne hcolon second)
  · rw [tokens_nil, List.append_nil]

/-- The start of a text that closes its braces has no brace at all if it has no open one. -/
theorem plain_of_isBalanced (h : isBalanced (xs ++ ys) = true) (hopen : '\x7b' ∉ xs) :
    ∀ c ∈ xs, isPlainChar c = true := by
  induction xs with
  | nil => exact List.forall_mem_nil _
  | cons c xs ih =>
    rw [List.mem_cons, not_or] at hopen
    obtain rfl | rfl | hplain := brace_or_plain c
    · exact absurd rfl hopen.1
    · cases h
    · rw [List.cons_append] at h
      unfold isBalanced at h
      rw [balancedFrom_plain hplain] at h
      exact List.forall_mem_cons.mpr ⟨hplain, ih h hopen.2⟩

namespace Conditional

variable {c : Conditional} {choice : Choice}

/-- Where the condition closes its own braces, a conditional has its tokens and those of the
    branches. -/
theorem tokens_of_read (hbody : isBalanced c.body = true) (h : c.read.1 = some choice)
    (hasked : isBalanced c.asked = true) : tokens c.raw =
      tokens c.asked ++ (tokens choice.whenTrue ++ tokens choice.whenFalse) := by
  obtain ⟨rest, hsplit, -, hbranches⟩ := parts_of_read h
  have hmark : ∀ d ∈ ['?'], d ≠ '\x7b' := List.forall_mem_singleton.mpr (by decide)
  have hrest : isBalanced rest = true := by
    rw [hsplit] at hbody
    unfold isBalanced at hbody
    rwa [← Nat.zero_add 0, balancedFrom_append hasked 0, balancedFrom_plain rfl] at hbody
  rw [tokens_raw hbody, hsplit, tokens_append hasked, ← tokens_of_splitBranches hrest hbranches]
  exact congrArg (tokens c.asked ++ ·) (tokens_append_of_ne hmark rest)

/-- A condition without an open brace closes its braces, as it has none, and has no token. -/
theorem plain_asked (hbody : isBalanced c.body = true) (h : '\x7b' ∉ c.asked) :
    isBalanced c.asked = true ∧ tokens c.asked = [] := by
  have htext := List.takeWhile_append_dropWhile (p := (· != '?')) (l := c.body)
  rw [← htext] at hbody
  have hplain := plain_of_isBalanced hbody h
  have hbalanced := balancedFrom_append_plain hplain 0 []
  have htokens := tokens_append_of_ne (fun d hd => (isPlainChar_iff.mp (hplain d hd)).1) []
  rw [List.append_nil] at hbalanced htokens
  exact ⟨hbalanced, htokens.trans tokens_nil⟩

end Conditional
end Pattern

/-! ## Segments -/

namespace Template

variable {t : Template} {segments : List Segment} {text : List Char} {token : Token}
  {pattern : String} {lookup : String → Except Failure (Option String)}

/-- No token goes beyond its segment: literal text is followed by a brace, and a conditional
    closes its own. -/
theorem tokens_segments (hapart : segments.IsChain Segment.Apart)
    (hbodies : ∀ c, .conditional c ∈ segments → isBalanced c.body = true) :
    tokens (segments.flatMap Segment.text) = segments.flatMap fun s => tokens s.text := by
  induction segments with
  | nil => exact tokens_nil
  | cons segment segments ih =>
    obtain ⟨hnext, hapart⟩ := List.isChain_cons.mp hapart
    have ih := ih hapart fun c hc => hbodies c (List.mem_cons_of_mem _ hc)
    rw [List.flatMap_cons, List.flatMap_cons, ← ih]
    cases segment with
    | conditional c =>
      exact tokens_append (Conditional.isBalanced_raw (hbodies c List.mem_cons_self)) _
    | literal text =>
      cases segments with
      | nil => rw [List.flatMap_nil, tokens_nil, List.append_nil, List.append_nil]
      | cons other segments =>
        cases other with
        | literal other => exact absurd ⟨rfl, rfl⟩ (hnext _ rfl text other)
        | conditional c => exact tokens_append_open _ _

/-- The variables of a pattern are the tokens of its segments, one after another. -/
theorem tokenList_of_parse (hparse : Template.parse pattern = .ok t) :
    t.tokenList = t.segments.flatMap fun s => tokens s.text := by
  have hapart : t.segments.IsChain Segment.Apart := by
    rw [parse_eq_ok hparse]
    exact isChain_segmentsFrom 0 [] pattern.toList
  unfold tokenList
  rw [← flatMap_text_of_parse hparse]
  exact tokens_segments hapart fun c hc => isBalanced_body_of_parse hparse hc

/-- The tokens of the condition of a segment. -/
def conditionTokens : Segment → List Token
  | .literal _ => []
  | .conditional c => tokens c.asked

/-- Every conditional can be read, and its condition closes its own braces. -/
def Separable (segments : List Segment) : Prop :=
  ∀ c, .conditional c ∈ segments →
    isBalanced c.body = true ∧ isBalanced c.asked = true ∧ ∃ choice, c.read.1 = some choice

theorem tokens_segment {segment : Segment} (h : Separable segments) (hmem : segment ∈ segments) :
    tokens segment.text = conditionTokens segment ++ (tokenTexts segment).flatMap tokens := by
  cases segment with
  | literal text =>
    show tokens text = [] ++ (tokens text ++ [])
    rw [List.nil_append, List.append_nil]
  | conditional c =>
    obtain ⟨hbody, hasked, choice, hchoice⟩ := h c hmem
    unfold tokenTexts
    dsimp only
    rw [hchoice]
    show tokens c.raw = tokens c.asked ++ (tokens _ ++ (tokens _ ++ []))
    rw [List.append_nil, Conditional.tokens_of_read hbody hchoice hasked]

/-- The conditions add their tokens to those of literal text and of branches. -/
theorem length_tokens_segments (h : Separable segments) :
    (segments.flatMap fun s => tokens s.text).length =
      (segments.flatMap conditionTokens).length +
        ((segments.flatMap tokenTexts).flatMap tokens).length := by
  rw [List.flatMap_assoc, List.length_flatMap, List.length_flatMap, List.length_flatMap,
    ← List.sum_map_add]
  congr 1
  apply List.map_congr_left
  intro segment hsegment
  rw [tokens_segment h hsegment, List.length_append]

/-- The tokens of a pattern are those of literal text and of branches just if the conditions have
    none. -/
theorem tokens_eq_iff (h : Separable segments) :
    (segments.flatMap fun s => tokens s.text) = (segments.flatMap tokenTexts).flatMap tokens ↔
      ∀ c, .conditional c ∈ segments → tokens c.asked = [] := by
  constructor
  · intro heq c hc
    have hlength := length_tokens_segments h
    rw [heq] at hlength
    have hzero : (segments.flatMap conditionTokens).length = 0 := by omega
    exact List.flatMap_eq_nil_iff.mp (List.length_eq_zero_iff.mp hzero) _ hc
  · intro hnone
    rw [List.flatMap_assoc]
    apply List.flatMap_congr
    intro segment hsegment
    rw [tokens_segment h hsegment]
    cases segment with
    | literal text => rfl
    | conditional c =>
      show tokens c.asked ++ _ = _
      rw [hnone c hsegment, List.nil_append]

/-! ## Expansions -/

theorem exists_mem_tokenTexts {segment : Segment}
    (hread : ∀ c, segment = .conditional c → ∃ choice, c.read.1 = some choice) :
    ∃ text, text ∈ tokenTexts segment := by
  cases segment with
  | literal text => exact ⟨text, List.mem_singleton_self text⟩
  | conditional c =>
    obtain ⟨choice, hchoice⟩ := hread c rfl
    refine ⟨choice.whenTrue, ?_⟩
    unfold tokenTexts
    dsimp only
    rw [hchoice]
    exact List.mem_cons_self

/-- Every text in which tokens are read stands in some expansion. -/
theorem exists_expands
    (hread : ∀ c, .conditional c ∈ segments → ∃ choice, c.read.1 = some choice) :
    (∃ expanded, Expands segments expanded) ∧
      ∀ text ∈ segments.flatMap tokenTexts, ∃ expanded, Expands segments expanded ∧
        text <:+: expanded := by
  induction segments with
  | nil => exact ⟨⟨[], .nil⟩, fun text htext => absurd htext List.not_mem_nil⟩
  | cons segment segments ih =>
    obtain ⟨⟨more, hmore⟩, hparts⟩ := ih fun c hc => hread c (List.mem_cons_of_mem _ hc)
    obtain ⟨first, hfirst⟩ := @exists_mem_tokenTexts segment fun c hc =>
      hread c (hc ▸ List.mem_cons_self)
    refine ⟨⟨first ++ more, .cons hfirst hmore⟩, ?_⟩
    intro text htext
    rw [List.flatMap_cons, List.mem_append] at htext
    rcases htext with htext | htext
    · exact ⟨text ++ more, .cons htext hmore, (List.prefix_append _ _).isInfix⟩
    · obtain ⟨expanded, hexpanded, hpart⟩ := hparts text htext
      exact ⟨first ++ expanded, .cons hfirst hexpanded,
        hpart.trans (List.suffix_append _ _).isInfix⟩

/-- Where literal text and branches close their own braces, so does the pattern. -/
theorem SegmentBalanced.isBalanced_text (h : t.SegmentBalanced)
    (hparse : Template.parse pattern = .ok t) : isBalanced t.text = true := by
  have hsegments (segments : List Segment) (h : ∀ s ∈ segments, isBalanced s.text = true) :
      isBalanced (segments.flatMap Segment.text) = true := by
    induction segments with
    | nil => rfl
    | cons segment segments ih =>
      obtain ⟨hsegment, hrest⟩ := List.forall_mem_cons.mp h
      rw [List.flatMap_cons]
      exact (balancedFrom_append hsegment 0 _).trans (ih hrest)
  rw [← flatMap_text_of_parse hparse]
  apply hsegments
  intro segment hsegment
  cases segment with
  | literal text =>
    exact h text (List.mem_flatMap.mpr ⟨_, hsegment, List.mem_singleton_self text⟩)
  | conditional c => exact Conditional.isBalanced_raw (isBalanced_body_of_parse hparse hsegment)

/-! ## Counters -/

/-- Some expansion has a counter. -/
def CanCount (t : Template) : Prop :=
  ∃ text, Expands t.segments text ∧ ∃ token ∈ tokens text, token.isCounter = true

theorem hasCounter_iff : t.hasCounter = true ↔ ∃ token ∈ t.tokenList, token.isCounter = true := by
  have hupper : Text.upper "COUNTER" = "COUNTER" := by decide +kernel
  unfold hasCounter hasVariable variableNames
  rw [hupper, List.contains_iff_mem, List.mem_eraseDups, List.mem_map]
  simp only [Token.isCounter, beq_iff_eq, Builtin.name]

/-- A counter among the variables is one of some expansion, unless it is one of a condition. -/
theorem canCount_of_hasCounter
    (hread : ∀ c, .conditional c ∈ t.segments → ∃ choice, c.read.1 = some choice)
    (hlist : t.tokenList = (t.segments.flatMap tokenTexts).flatMap tokens)
    (h : t.hasCounter = true) : t.CanCount := by
  obtain ⟨token, htoken, hname⟩ := hasCounter_iff.mp h
  rw [hlist] at htoken
  obtain ⟨text, htext, htoken⟩ := List.mem_flatMap.mp htoken
  obtain ⟨expanded, hexpanded, hpart⟩ := (exists_expands hread).2 text htext
  exact ⟨expanded, hexpanded, token, mem_tokens_within htoken hpart, hname⟩

/-- A counter of an expansion is among the variables, unless two parts make it up together. -/
theorem SegmentBalanced.hasCounter (hbalanced : t.SegmentBalanced)
    (hlist : t.tokenList = (t.segments.flatMap tokenTexts).flatMap tokens) (h : t.CanCount) :
    t.hasCounter = true := by
  obtain ⟨text, hexpands, token, htoken, hname⟩ := h
  refine hasCounter_iff.mpr ⟨token, ?_, hname⟩
  rw [hlist]
  exact mem_tokens_of_expands hbalanced hexpands htoken

end Template

/-! ## Warnings -/

/-- All that is warned of in a conditional is a branch without text. -/
theorem Pattern.Conditional.mem_warnings_read {c : Conditional} {message : String}
    (h : message ∈ c.read.2.warnings) :
    message = "Empty true branch in conditional: " ++ String.ofList c.raw := by
  have hbranches (whenTrue whenFalse : List Char)
      (h : message ∈ (branchFindings c whenTrue whenFalse).warnings) :
      message = "Empty true branch in conditional: " ++ String.ofList c.raw := by
    have hnested : (if opensConditional whenTrue || opensConditional whenFalse then
        Findings.none.error ("Nested conditionals are not supported: " ++ String.ofList c.raw)
          Findings.nestedConditional
        else Findings.none).warnings = [] := by
      split <;> rfl
    unfold branchFindings at h
    dsimp only at h
    split at h
    · unfold Findings.warn at h
      dsimp only at h
      rw [hnested] at h
      exact List.mem_singleton.mp h
    · rw [hnested] at h
      exact absurd h List.not_mem_nil
  unfold read at h
  split at h
  · exact absurd h List.not_mem_nil
  · dsimp only at h
    split at h
    · exact hbranches _ _ h
    · dsimp only at h
      split at h
      · exact hbranches _ _ h
      · exact hbranches _ _ h

theorem Template.mem_warnings_conditionalFindings {t : Template} {message : String}
    (h : message ∈ t.conditionalFindings.warnings) :
    ∃ raw, message = "Empty true branch in conditional: " ++ raw := by
  have herrors (errors : List String) (found : Findings) :
      (errors.foldl (fun found e => found.error e Findings.unclosedConditional) found).warnings =
        found.warnings := by
    induction errors generalizing found with
    | nil => rfl
    | cons e errors ih => exact ih _
  have hmerge (conditionals : List Conditional) (found : Findings)
      (hfound : ∀ message ∈ found.warnings,
        ∃ raw, message = "Empty true branch in conditional: " ++ raw) :
      ∀ message ∈ (conditionals.foldl (fun found c => found.merge c.read.2) found).warnings,
        ∃ raw, message = "Empty true branch in conditional: " ++ raw := by
    induction conditionals generalizing found with
    | nil => exact hfound
    | cons c conditionals ih =>
      refine ih _ fun message hmessage => ?_
      rcases List.mem_append.mp hmessage with hmessage | hmessage
      · exact hfound message hmessage
      · exact ⟨_, Conditional.mem_warnings_read hmessage⟩
  refine hmerge t.conditionals _ (fun message hmessage => ?_) message h
  rw [herrors] at hmessage
  exact absurd hmessage List.not_mem_nil

namespace Registry

variable {r : Registry} {t : Template} {pattern : String} {found found' : Findings}

/-- Looking at tokens gives no warning. -/
theorem warnings_bodyFindings {inside : List Char} (h : r.bodyFindings inside found = .ok found') :
    found'.warnings = found.warnings := by
  unfold bodyFindings at h
  dsimp only at h
  split at h
  · cases h
    rfl
  · split at h
    · cases h
      rfl
    · cases h
      rfl
    · obtain ⟨problem, -, h⟩ := Except.bind_eq_ok.mp h
      split at h
      · cases h
        rfl
      · cases h
        rfl

theorem warnings_tokenFindings (h : r.tokenFindings t found = .ok found') :
    found'.warnings = found.warnings := by
  have hfold (insides : List (List Char)) (found : Findings)
      (h : insides.foldlM (fun found inside => r.bodyFindings inside found) found = .ok found') :
      found'.warnings = found.warnings := by
    induction insides generalizing found with
    | nil => rw [Except.ok.inj h]
    | cons inside insides ih =>
      rw [List.foldlM_cons] at h
      obtain ⟨next, hnext, hrest⟩ := Except.bind_eq_ok.mp h
      exact (ih next hrest).trans (warnings_bodyFindings hnext)
  exact hfold _ _ h

/-- What is warned of where a pattern has no counter. -/
def noCounter : String :=
  "Pattern has no \x7bCOUNTER\x7d token; generated numbers may repeat"

/-- Where conditionals and braces are closed, a missing counter is warned of just if there is none
    among the variables. -/
theorem mem_noCounter_iff (hclosed : t.unclosed = none) (hbalanced : isBalanced t.text = true)
    (h : r.templateFindings t = .ok found) :
    noCounter ∈ found.warnings ↔ t.hasCounter = false := by
  unfold templateFindings at h
  rw [hclosed, hbalanced] at h
  obtain ⟨found', hfound, h⟩ := Except.bind_eq_ok.mp h
  have hbefore : noCounter ∉ found'.warnings := by
    rw [warnings_tokenFindings hfound]
    intro hmem
    obtain ⟨raw, hraw⟩ := Template.mem_warnings_conditionalFindings hmem
    -- The two messages start differently.
    have hfirst := congrArg (fun s : String => s.toList.take 1) hraw
    rw [String.toList_append, List.take_append_of_le_length (by decide)] at hfirst
    exact absurd hfirst (by decide)
  cases hcounter : t.hasCounter with
  | true =>
    rw [hcounter] at h
    cases h
    exact iff_of_false hbefore Bool.noConfusion
  | false =>
    rw [hcounter] at h
    cases h
    exact iff_of_true (List.mem_append_right _ (List.mem_singleton_self _)) rfl

/-- The variables of a pattern, segment by segment, and its expansions.  A condition without an
    open brace has no token.  Where all conditions close their own braces, the variables are
    exactly those of literal text and of branches just if no condition has a token; then a counter
    among them is one of some expansion, and where literal text and branches close their own braces
    too, the counters of the expansions are found, and the warning tells that there are none. -/
theorem tokenList_extracted (hparse : Template.parse pattern = .ok t) (hclosed : t.unclosed = none)
    (hread : ∀ c, .conditional c ∈ t.segments → ∃ choice, c.checked = .ok choice) :
    (t.tokenList = t.segments.flatMap fun s => tokens s.text) ∧
    (∀ lookup text, t.expand lookup = .ok text → Template.Expands t.segments text) ∧
    ((∀ c, .conditional c ∈ t.segments → '\x7b' ∉ c.asked) →
      ∀ c, .conditional c ∈ t.segments → isBalanced c.asked = true ∧ tokens c.asked = []) ∧
    ((∀ c, .conditional c ∈ t.segments → isBalanced c.asked = true) →
      (t.tokenList = (t.segments.flatMap Template.tokenTexts).flatMap tokens ↔
        ∀ c, .conditional c ∈ t.segments → tokens c.asked = []) ∧
      ((∀ c, .conditional c ∈ t.segments → tokens c.asked = []) →
        (t.hasCounter = true → t.CanCount) ∧
        (t.SegmentBalanced →
          (t.hasCounter = true ↔ t.CanCount) ∧
          ∀ found, r.checkSyntax pattern = .ok found →
            (noCounter ∈ found.warnings ↔ ¬t.CanCount)))) := by
  have hbodies (c : Conditional) (hc : .conditional c ∈ t.segments) : isBalanced c.body = true :=
    Template.isBalanced_body_of_parse hparse hc
  have hread (c : Conditional) (hc : .conditional c ∈ t.segments) :
      ∃ choice, c.read.1 = some choice ∧ c.checked = .ok choice := by
    obtain ⟨choice, hchoice⟩ := hread c hc
    exact Conditional.checked_of_isValid (Conditional.isValid_of_checked hchoice)
  have hreadable (c : Conditional) (hc : .conditional c ∈ t.segments) :
      ∃ choice, c.read.1 = some choice := by
    obtain ⟨choice, hchoice, -⟩ := hread c hc
    exact ⟨choice, hchoice⟩
  have htokens := Template.tokenList_of_parse hparse
  refine ⟨htokens, ?_, fun hopen c hc => Conditional.plain_asked (hbodies c hc) (hopen c hc), ?_⟩
  · intro lookup text hexpand
    unfold Template.expand at hexpand
    rw [hclosed] at hexpand
    exact Template.expands_of_expandAll hread hexpand
  · intro hasked
    have hiff : t.tokenList = (t.segments.flatMap Template.tokenTexts).flatMap tokens ↔
        ∀ c, .conditional c ∈ t.segments → tokens c.asked = [] := by
      rw [htokens]
      exact Template.tokens_eq_iff fun c hc => ⟨hbodies c hc, hasked c hc, hreadable c hc⟩
    refine ⟨hiff, fun hnone => ?_⟩
    have hlist := hiff.mpr hnone
    have hcan := Template.canCount_of_hasCounter hreadable hlist
    refine ⟨hcan, fun hbalanced => ?_⟩
    have hcounter : t.hasCounter = true ↔ t.CanCount := ⟨hcan, hbalanced.hasCounter hlist⟩
    refine ⟨hcounter, fun found hcheck => ?_⟩
    rw [checkSyntax_of_parse hparse] at hcheck
    rw [mem_noCounter_iff hclosed (hbalanced.isBalanced_text hparse) hcheck, ← hcounter,
      Bool.not_eq_true]

/-- The operand of the condition is a counter in braces: found valid, without a warning, and with
    a counter among its variables, though no expansion has one. -/
theorem tokenList_extracted_operand :
    let pattern := "\x7b?TIER=\x7bCOUNTER\x7d?A:B\x7d"
    ∃ t, Template.parse pattern = .ok t ∧ t.unclosed = none ∧
      empty.withDefaults.checkSyntax pattern = .ok Findings.none ∧
      t.tokenList = [⟨"COUNTER", none⟩] ∧ t.hasCounter = true ∧ ¬t.CanCount ∧
      t.tokenList ≠ (t.segments.flatMap Template.tokenTexts).flatMap tokens ∧
      ¬∀ c, .conditional c ∈ t.segments → tokens c.asked = [] := by
  intro pattern
  have hcheck : empty.withDefaults.checkSyntax pattern = .ok Findings.none := by decide +kernel
  let c : Conditional := ⟨"TIER=\x7bCOUNTER\x7d?A:B".toList, 0⟩
  let t : Template := ⟨pattern, [.conditional c], none⟩
  have hparse : Template.parse pattern = .ok t := by decide +kernel
  have hnone : (t.segments.flatMap Template.tokenTexts).flatMap tokens = [] := by decide +kernel
  have hlist : t.tokenList = [⟨"COUNTER", none⟩] := by decide +kernel
  have hcan : ¬t.CanCount := by
    rintro ⟨text, hexpands, token, htoken, -⟩
    have hbalanced : t.SegmentBalanced := by decide +kernel
    have hmem := Template.mem_tokens_of_expands hbalanced hexpands htoken
    rw [hnone] at hmem
    cases hmem
  have hdiffers : t.tokenList ≠ (t.segments.flatMap Template.tokenTexts).flatMap tokens := by
    rw [hnone, hlist]
    exact List.cons_ne_nil _ _
  have hread (d : Conditional) (hd : .conditional d ∈ t.segments) :
      ∃ choice, d.checked = .ok choice := by
    cases List.mem_singleton.mp hd
    exact ⟨⟨"TIER=\x7bCOUNTER\x7d".toList, ⟨"TIER", some (.equal, "\x7bCOUNTER\x7d")⟩,
      ['A'], ['B']⟩, by decide +kernel⟩
  have hasked (d : Conditional) (hd : .conditional d ∈ t.segments) : isBalanced d.asked = true := by
    cases List.mem_singleton.mp hd
    decide +kernel
  obtain ⟨-, -, -, hseparate⟩ := @tokenList_extracted empty.withDefaults t pattern hparse rfl hread
  exact ⟨t, hparse, rfl, hcheck, hlist, by decide +kernel, hcan, hdiffers,
    fun htokens => hdiffers ((hseparate hasked).1.mpr htokens)⟩

end Registry
end SerialNumbers
