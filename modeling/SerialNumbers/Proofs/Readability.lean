/-
  SerialNumbers.Proofs.Readability

  Where the checks of a pattern come to no answer.  The syntax is not checked
  where the parameter of a token looks like a number and has a character that is
  no digit, so that it is read as a width and cannot be (`Registry.Stumbles`).  A
  context is not checked where a registered variable fails in its own check
  (`Registry.Balks`), and a configuration, besides, where its limit would have to
  be written in a message and has too many digits.  The failure is that of the
  first token, or of the first variable (`Registry.checks_eq_error`).
-/
import SerialNumbers.Proofs.Pattern.Segment
import SerialNumbers.Proofs.Text.Blank
import SerialNumbers.Proofs.Variable.Parameter
import SerialNumbers.Proofs.Variable.Width
import SerialNumbers.Validation

namespace SerialNumbers

open Pattern Text

/-! ## The first failure -/

section First

variable {α β γ : Type} {p : α → β → Prop} {x : α} {xs : List α} {b : β}

/-- There is a first element that is related to anything, and this is what it is related to. -/
def FirstOf (p : α → β → Prop) (xs : List α) (b : β) : Prop :=
  ∃ before x after, xs = before ++ x :: after ∧ (∀ earlier ∈ before, ∀ b, ¬p earlier b) ∧ p x b

theorem not_firstOf_nil : ¬FirstOf p [] b := by
  rintro ⟨before, x, after, h, -⟩
  exact List.append_ne_nil_of_right_ne_nil before (List.cons_ne_nil x after) h.symm

theorem firstOf_cons :
    FirstOf p (x :: xs) b ↔ p x b ∨ (∀ b, ¬p x b) ∧ FirstOf p xs b := by
  constructor
  · rintro ⟨before, y, after, h, hbefore, hfirst⟩
    cases before with
    | nil =>
      obtain ⟨rfl, rfl⟩ := List.cons.inj h
      exact .inl hfirst
    | cons z before =>
      obtain ⟨rfl, rfl⟩ := List.cons.inj h
      obtain ⟨hz, hbefore⟩ := List.forall_mem_cons.mp hbefore
      exact .inr ⟨hz, before, y, after, rfl, hbefore, hfirst⟩
  · rintro (h | ⟨hx, before, y, after, rfl, hbefore, hfirst⟩)
    · exact ⟨[], x, xs, rfl, List.forall_mem_nil _, h⟩
    · exact ⟨x :: before, y, after, rfl, List.forall_mem_cons.mpr ⟨hx, hbefore⟩, hfirst⟩

theorem findSome?_eq_some_iff_first {f : α → Option β}
    (h : ∀ x ∈ xs, ∀ b, f x = some b ↔ p x b) :
    xs.findSome? f = some b ↔ FirstOf p xs b := by
  induction xs with
  | nil => simp [not_firstOf_nil]
  | cons x xs ih =>
    obtain ⟨hx, hxs⟩ := List.forall_mem_cons.mp h
    rw [List.findSome?_cons, firstOf_cons, ← ih hxs]
    simp only [← hx]
    cases f x <;> simp

/-- A fold that may fail does so at the first element that it cannot get past. -/
theorem foldlM_eq_error_iff_first {f : γ → α → Except β γ}
    (h : ∀ c x b, f c x = .error b ↔ p x b) (start : γ) :
    xs.foldlM f start = .error b ↔ FirstOf p xs b := by
  induction xs generalizing start with
  | nil => exact ⟨nofun, fun h => (not_firstOf_nil h).elim⟩
  | cons x xs ih =>
    rw [List.foldlM_cons, firstOf_cons]
    simp only [← h start x]
    cases f start x with
    | error e => simp [bind, Except.bind]
    | ok next => simp [Except.ok_bind, ih next]

end First

/-! ## Parameters -/

namespace Registry

variable {r : Registry}

/-- A width is read in every check of a parameter but that of a registered variable. -/
theorem parameterProblem?_eq_error {name parameter : String} {e : Failure} :
    r.parameterProblem? name parameter = .error e ↔
      (Builtin.named? name ≠ none ∨ r.get? name = none) ∧
        ∃ cause, e = .value cause ∧ Unreadable parameter cause := by
  -- Nothing that is done with a width fails.
  have hwidth {most : Nat} {f : Option Nat → Except Failure (Option String)}
      (hf : ∀ width, ∃ problem, f width = .ok problem) :
      (width? most parameter >>= f) = .error e ↔
        ∃ cause, e = .value cause ∧ Unreadable parameter cause := by
    rw [Except.bind_eq_error, width?_eq_error, or_iff_left]
    rintro ⟨width, -, herror⟩
    obtain ⟨problem, hproblem⟩ := hf width
    rw [hproblem] at herror
    cases herror
  cases hname : Builtin.named? name with
  | some b =>
    rw [and_iff_right (.inl (Option.some_ne_none b))]
    by_cases hb : b = .counter
    · subst hb
      unfold parameterProblem?
      rw [hname]
      exact hwidth fun width => by cases width <;> exact ⟨_, rfl⟩
    · rw [parameterProblem?_field hname hb]
      exact hwidth fun width => by cases width <;> exact ⟨_, rfl⟩
  | none =>
    unfold parameterProblem?
    rw [hname]
    dsimp only
    cases hcustom : r.get? name with
    | some v => exact ⟨nofun, nofun⟩
    | none =>
      rw [and_iff_right (.inr rfl)]
      exact hwidth fun width => by cases width <;> exact ⟨_, rfl⟩

/-! ## Tokens -/

/-- What keeps the check from getting past a token, if anything does. -/
def obstacle? (r : Registry) (token : Token) : Option Failure :=
  token.parameter.bind fun parameter =>
    match r.parameterProblem? token.name parameter with
    | .error e => some e
    | .ok _ => none

end Registry

theorem Pattern.isBlank_of_isNameStart {c : Char} (h : isNameStart c = true) :
    isBlank c = false := by
  rcases Bool.or_eq_true_iff.mp h with hupper | hunderscore
  · obtain ⟨hleast, hmost⟩ : 65 ≤ c.toNat ∧ c.toNat ≤ 90 := of_decide_eq_true hupper
    exact isBlank_of_visible (by omega) (by omega)
  · rw [beq_iff_eq.mp hunderscore]
    exact isBlank_of_visible (by decide) (by decide)

/-- A token has a name, so that it is no empty placeholder. -/
theorem Pattern.allBlank_of_token? {inside : List Char} {token : Token}
    (h : token? ('\x7b' :: inside ++ ['\x7d']) = some token) : allBlank inside = false := by
  cases inside with
  | nil => cases h
  | cons c rest =>
    have hstart : isNameStart c = true := by
      by_contra hstart
      have hnone : tokenAt? ('\x7b' :: (c :: rest) ++ ['\x7d']) = none := if_neg hstart
      unfold token? at h
      rw [hnone] at h
      cases h
    unfold allBlank
    rw [List.all_cons, isBlank_of_isNameStart hstart, Bool.false_and]

namespace Registry

variable {r : Registry}

theorem bodyFindings_eq_error {inside : List Char} {found : Findings} {e : Failure} :
    r.bodyFindings inside found = .error e ↔
      (token? ('\x7b' :: inside ++ ['\x7d'])).bind r.obstacle? = some e := by
  unfold bodyFindings
  dsimp only
  cases htoken : token? ('\x7b' :: inside ++ ['\x7d']) with
  | none =>
    constructor
    · split <;> nofun
    · nofun
  | some token =>
    obtain ⟨name, parameter⟩ := token
    rw [allBlank_of_token? htoken, if_neg Bool.false_ne_true, Option.bind_some]
    unfold obstacle?
    cases parameter with
    | none => exact ⟨nofun, nofun⟩
    | some parameter =>
      rw [Option.bind_some]
      dsimp only
      cases r.parameterProblem? name parameter with
      | error e' =>
        constructor
        · rintro ⟨⟩
          rfl
        · rintro ⟨⟩
          rfl
      | ok problem? => cases problem? <;> exact ⟨nofun, nofun⟩

theorem tokenFindings_eq_error {t : Template} {found : Findings} {e : Failure} :
    r.tokenFindings t found = .error e ↔
      ((t.segments.flatMap Template.tokenTexts).flatMap tokens).findSome? r.obstacle? = some e := by
  unfold tokenFindings
  rw [foldlM_eq_error_iff_first (f := fun found inside => r.bodyFindings inside found)
      fun _ _ _ => bodyFindings_eq_error,
    ← findSome?_eq_some_iff_first fun _ _ _ => Iff.rfl, ← List.head?_filterMap,
    ← List.filterMap_filterMap, List.head?_filterMap, List.filterMap_flatMap,
    ← funext tokens_eq_filterMap]

/-! ## Patterns -/

/-- Only tokens can make the check of a template fail, and it comes to them when all braces are
    closed. -/
theorem templateFindings_eq_error {t : Template} {e : Failure} :
    r.templateFindings t = .error e ↔ t.unclosed = none ∧ isBalanced t.text = true ∧
      ((t.segments.flatMap Template.tokenTexts).flatMap tokens).findSome? r.obstacle? =
        some e := by
  unfold templateFindings
  dsimp only
  cases hunclosed : t.unclosed with
  | some position => exact ⟨nofun, nofun⟩
  | none =>
    cases hbalanced : isBalanced t.text with
    | false => exact ⟨nofun, nofun⟩
    | true =>
      rw [and_iff_right rfl, and_iff_right rfl, ← tokenFindings_eq_error]
      show (r.tokenFindings t t.conditionalFindings >>= _) = .error e ↔ _
      rw [Except.bind_eq_error, or_iff_left nofun]

theorem checkSyntax_eq_error {pattern : String} {e : Failure} :
    r.checkSyntax pattern = .error e ↔
      ∃ t, Template.parse pattern = .ok t ∧ r.templateFindings t = .error e := by
  unfold checkSyntax Template.parse
  split
  · exact ⟨nofun, nofun⟩
  · split
    · exact ⟨nofun, nofun⟩
    · constructor
      · exact fun h => ⟨_, rfl, h⟩
      · rintro ⟨t, ⟨⟩, h⟩
        exact h

theorem checkPattern_eq_error {pattern : String} {e : Failure} :
    r.checkPattern pattern = .error e ↔ r.checkSyntax pattern = .error e := by
  unfold checkPattern
  rw [Except.bind_eq_error, or_iff_left]
  rintro ⟨found, -, h⟩
  split at h <;> cases h

/-! ## Contexts -/

/-- A registered variable has all keys that it requires, and fails in its check of the context. -/
def Balks (r : Registry) (c : Context) (name : String) (e : Failure) : Prop :=
  Builtin.isReserved (upper name) = false ∧
    ∃ v, r.get? name = some v ∧ c.missing v.required = [] ∧ v.check c = .error e

theorem variableFindings_eq_error {c : Context} {found : Findings} {name : String} {e : Failure} :
    r.variableFindings c found name = .error e ↔ r.Balks c name e := by
  unfold variableFindings Balks
  cases hreserved : Builtin.isReserved (upper name) with
  | true => simp
  | false =>
    cases hget : r.get? name with
    | none => simp
    | some v =>
      unfold customFindings
      by_cases hmissing : c.missing v.required = []
      · simp [hmissing, Except.map_eq_error]
      · simp [hmissing]

/-- The check of a context comes to a variable of the pattern that cannot check it. -/
def BalksAt (r : Registry) (c : Context) (pattern : String) (e : Failure) : Prop :=
  ∃ t, Template.parse pattern = .ok t ∧ FirstOf (r.Balks c) t.variableNames e

theorem checkContext_eq_error {c : Context} {pattern : String} {e : Failure} :
    r.checkContext c pattern = .error e ↔ r.BalksAt c pattern e := by
  unfold checkContext BalksAt
  cases hparse : Template.parse pattern with
  | error => simp
  | ok t =>
    show (t.variableNames.foldlM (r.variableFindings c) Findings.none >>= _) = .error e ↔ _
    rw [Except.bind_eq_error, or_iff_left (by simp [pure, Except.pure]),
      foldlM_eq_error_iff_first (f := r.variableFindings c)
        fun _ _ _ => variableFindings_eq_error]
    simp

end Registry

/-! ## Short parameters -/

theorem Pattern.infix_of_mem_tokens {cs : List Char} {token : Token} (h : token ∈ tokens cs) :
    token.text <:+: cs := by
  obtain ⟨piece, hpiece, heq⟩ := List.mem_filterMap.mp h
  cases piece with
  | char c => cases heq
  | token t =>
    cases heq
    obtain ⟨front, back, hsplit⟩ := List.append_of_mem hpiece
    refine ⟨front.flatMap Piece.text, back.flatMap Piece.text, ?_⟩
    rw [← flatMap_text_pieces cs, hsplit, List.flatMap_append, List.flatMap_cons,
      List.append_assoc]
    rfl

theorem Pattern.Token.length_parameter_le {token : Token} {parameter : String}
    (h : token.parameter = some parameter) : parameter.length ≤ token.text.length := by
  unfold text body
  rw [h]
  simp only [List.cons_append, List.length_cons, List.length_append, String.length_toList,
    String.length_append]
  omega

theorem Template.length_of_parse {pattern : String} {t : Template}
    (h : Template.parse pattern = .ok t) : t.text.length ≤ maxLength := by
  unfold Template.parse at h
  split at h
  · cases h
  · split at h
    · cases h
    · rename_i hshort
      cases h
      exact (String.length_toList).trans_le (Nat.le_of_not_lt hshort)

/-- The parameters in a pattern do not have too many digits to be read. -/
theorem Template.length_parameter_le {pattern : String} {t : Template}
    (hparse : Template.parse pattern = .ok t) {token : Token}
    (htoken : token ∈ (t.segments.flatMap tokenTexts).flatMap tokens) (parameter : String)
    (hparameter : token.parameter = some parameter) : parameter.length ≤ maxDigits := by
  obtain ⟨text, htext, hmem⟩ := List.mem_flatMap.mp htoken
  calc parameter.length ≤ token.text.length := Token.length_parameter_le hparameter
    _ ≤ t.text.length := (infix_of_mem_tokens (mem_tokenList hparse htext hmem)).length_le
    _ ≤ maxLength := length_of_parse hparse
    _ ≤ maxDigits := by decide +kernel

/-! ## Main statement -/

namespace Registry

variable {r : Registry}

/-- The check cannot get past a token, and this is its failure: the variable is not a registered
    one, and all of the parameter looks like digits, and not all of it is. -/
inductive Stumbles (r : Registry) (token : Token) : Failure → Prop
  | numeral {parameter : String} {c : Char} (given : token.parameter = some parameter)
      (free : Builtin.named? token.name ≠ none ∨ r.get? token.name = none)
      (numerals : ∀ c ∈ parameter.toList, isNumeral c = true)
      (member : c ∈ parameter.toList) (plain : isDecimalDigit c = false) :
      Stumbles r token (.value (.numeral parameter))

theorem obstacle?_eq_some {token : Token} {e : Failure}
    (hshort : ∀ parameter, token.parameter = some parameter → parameter.length ≤ maxDigits) :
    r.obstacle? token = some e ↔ r.Stumbles token e := by
  have hproblem {parameter : String} : (match r.parameterProblem? token.name parameter with
      | .error e => some e
      | .ok _ => none) = some e ↔ r.parameterProblem? token.name parameter = .error e := by
    cases r.parameterProblem? token.name parameter <;> simp
  unfold obstacle?
  rw [Option.bind_eq_some_iff]
  constructor
  · rintro ⟨parameter, hparameter, h⟩
    obtain ⟨hfree, cause, rfl, hunreadable⟩ := parameterProblem?_eq_error.mp (hproblem.mp h)
    cases hunreadable with
    | numeral hall hc hplain => exact .numeral hparameter hfree hall hc hplain
    | tooLong hdigits hlong => exact absurd hlong (Nat.not_lt.mpr (hshort _ hparameter))
  · rintro ⟨hgiven, hfree, hall, hc, hplain⟩
    exact ⟨_, hgiven, hproblem.mpr (parameterProblem?_eq_error.mpr
      ⟨hfree, _, rfl, .numeral hall hc hplain⟩)⟩

/-- The check of a pattern comes to its tokens, since all braces are closed, and cannot get past
    one of them. -/
def StumblesAt (r : Registry) (pattern : String) (e : Failure) : Prop :=
  ∃ t, Template.parse pattern = .ok t ∧ t.unclosed = none ∧ isBalanced t.text = true ∧
    FirstOf r.Stumbles ((t.segments.flatMap Template.tokenTexts).flatMap tokens) e

theorem checkSyntax_stumbles {pattern : String} {e : Failure} :
    r.checkSyntax pattern = .error e ↔ r.StumblesAt pattern e := by
  rw [checkSyntax_eq_error]
  refine exists_congr fun t => and_congr_right fun hparse => ?_
  rw [templateFindings_eq_error, findSome?_eq_some_iff_first fun token htoken _ =>
    obstacle?_eq_some (Template.length_parameter_le hparse htoken)]

/-- Where the check of a configuration comes to no answer. -/
inductive Fails (r : Registry) (pattern : String) (context : Option Context)
    (limit : Option Int) : Failure → Prop
  /-- It comes to a token with a parameter that cannot be read. -/
  | token {e : Failure} (stumbles : r.StumblesAt pattern e) : Fails r pattern context limit e
  /-- The pattern is checked, and it comes to a variable that cannot check the context. -/
  | context {c : Context} {e : Failure} (readable : ∀ e, ¬r.StumblesAt pattern e)
      (given : context = some c) (balks : r.BalksAt c pattern e) :
      Fails r pattern context limit e
  /-- Pattern and context are checked, and the pattern is longer than a limit that cannot be
      written. -/
  | limit {most : Int} (readable : ∀ e, ¬r.StumblesAt pattern e)
      (checkable : ∀ c, context = some c → ∀ e, ¬r.BalksAt c pattern e)
      (given : limit = some most) (long : most < pattern.length)
      (unwritable : ¬Number.Writable most) : Fails r pattern context limit .longWhole

theorem contextFindings_eq_error {pattern : String} {context : Option Context}
    {found : Findings} {e : Failure} :
    r.contextFindings pattern context found = .error e ↔
      ∃ c, context = some c ∧ r.BalksAt c pattern e := by
  unfold contextFindings
  cases context with
  | none => simp
  | some c => simp [Except.map_eq_error, checkContext_eq_error]

theorem limitFindings_eq_error {pattern : String} {limit : Option Int} {found : Findings}
    {e : Failure} :
    limitFindings pattern limit found = .error e ↔
      ∃ most, limit = some most ∧ most < pattern.length ∧ ¬Number.Writable most ∧
        e = .longWhole := by
  unfold limitFindings
  cases limit with
  | none => simp
  | some most =>
    by_cases hlong : most < pattern.length
    · simp [hlong, Except.map_eq_error, Number.numeral_eq_error]
    · simp [hlong]

theorem checkConfiguration_eq_error {pattern : String} {context : Option Context}
    {limit : Option Int} {forbidden : List String} {e : Failure} :
    r.checkConfiguration pattern context limit forbidden = .error e ↔
      r.Fails pattern context limit e := by
  have hpattern {e : Failure} : r.checkPattern pattern = .error e ↔ r.StumblesAt pattern e :=
    checkPattern_eq_error.trans checkSyntax_stumbles
  unfold checkConfiguration
  constructor
  · intro h
    rcases Except.bind_eq_error.mp h with h | ⟨found, hfound, h⟩
    · exact .token (hpattern.mp h)
    have hreadable (e : Failure) : ¬r.StumblesAt pattern e := fun hstumbles => by
      cases hfound.symm.trans (hpattern.mpr hstumbles)
    rcases Except.bind_eq_error.mp h with h | ⟨merged, hmerged, h⟩
    · obtain ⟨c, hc, hbalks⟩ := contextFindings_eq_error.mp h
      exact .context hreadable hc hbalks
    have hcheckable (c : Context) (hc : context = some c) (e : Failure) :
        ¬r.BalksAt c pattern e := fun hbalks => by
      cases hmerged.symm.trans (contextFindings_eq_error.mpr ⟨c, hc, hbalks⟩)
    rcases Except.bind_eq_error.mp h with h | ⟨_, -, h⟩
    · obtain ⟨most, hmost, hlong, hunwritable, rfl⟩ := limitFindings_eq_error.mp h
      exact .limit hreadable hcheckable hmost hlong hunwritable
    · cases h
  · -- What comes before the failure is gone through.
    have hfound (hreadable : ∀ e, ¬r.StumblesAt pattern e) :
        ∃ found, r.checkPattern pattern = .ok found :=
      Except.exists_ok fun e he => hreadable e (hpattern.mp he)
    rintro (hstumbles | ⟨hreadable, hc, hbalks⟩ | ⟨hreadable, hcheckable, hmost, hlong, hwritable⟩)
    · exact Except.bind_eq_error.mpr (.inl (hpattern.mpr hstumbles))
    · obtain ⟨found, hfound⟩ := hfound hreadable
      exact Except.bind_eq_error.mpr (.inr ⟨found, hfound, Except.bind_eq_error.mpr
        (.inl (contextFindings_eq_error.mpr ⟨_, hc, hbalks⟩))⟩)
    · obtain ⟨found, hfound⟩ := hfound hreadable
      obtain ⟨merged, hmerged⟩ := Except.exists_ok fun e he => by
        obtain ⟨c, hc, hbalks⟩ := contextFindings_eq_error.mp he
        exact hcheckable c hc e hbalks
      exact Except.bind_eq_error.mpr (.inr ⟨found, hfound, Except.bind_eq_error.mpr
        (.inr ⟨merged, hmerged, Except.bind_eq_error.mpr
          (.inl (limitFindings_eq_error.mpr ⟨_, hmost, hlong, hwritable, rfl⟩))⟩)⟩)

/-- The checks fail in these cases only: that of the syntax, and with it that of the pattern, at
    the first token whose parameter looks like a number and cannot be read; that of a context at
    the first variable that cannot check it, which a stock variable cannot just where its value
    has a number of too many digits; and that of a configuration where one of these does, or
    where a limit that the pattern exceeds has too many digits itself. -/
theorem checks_eq_error (r : Registry) (pattern : String) (context : Option Context)
    (limit : Option Int) (forbidden : List String) (e : Failure) :
    (r.checkSyntax pattern = .error e ↔ r.StumblesAt pattern e) ∧
      (r.checkPattern pattern = .error e ↔ r.StumblesAt pattern e) ∧
      (∀ c, r.checkContext c pattern = .error e ↔ r.BalksAt c pattern e) ∧
      (∀ v ∈ Stock.all, ∀ c, v.check c = .error e ↔ e = .longWhole ∧
        ∃ value, c.firstOf (v.required ++ v.optional) = some value ∧ value.shown = .error e) ∧
      (r.checkConfiguration pattern context limit forbidden = .error e ↔
        r.Fails pattern context limit e) := by
  refine ⟨checkSyntax_stumbles, checkPattern_eq_error.trans checkSyntax_stumbles,
    fun c => checkContext_eq_error, fun v hv c => ?_, checkConfiguration_eq_error⟩
  rw [← Stock.check_eq_error hv, iff_and_self]
  exact Stock.eq_longWhole_of_check hv

/-- A superscript two looks like a number and is no digit; and a tier may be a number that is not
    written. -/
theorem checks_eq_error_superscript :
    let r := empty.withDefaults
    let pattern := "\x7bCOUNTER:²\x7d"
    let tiered := "\x7bCUSTOMER_TIER\x7d-\x7bCOUNTER\x7d"
    let c := Context.ofPairs [("tier", .whole digitBound)]
    let e : Failure := .value (.numeral "²")
    r.StumblesAt pattern e ∧ r.checkSyntax pattern = .error e ∧ r.checkPattern pattern = .error e ∧
      r.checkConfiguration pattern (some .empty) (some 255) [] = .error e ∧
      r.BalksAt c tiered .longWhole ∧ r.checkContext c tiered = .error .longWhole ∧
      r.checkConfiguration tiered (some c) none [] = .error .longWhole := by
  intro r pattern tiered c e
  obtain ⟨hstructure, hpattern, -, -, hconfiguration⟩ :=
    checks_eq_error r pattern (some .empty) (some 255) [] e
  obtain ⟨hsettled, -, hcontext, -, hgiven⟩ :=
    checks_eq_error r tiered (some c) none [] .longWhole
  have herror : r.checkSyntax pattern = .error e := by decide +kernel
  have hstumbles := hstructure.mp herror
  have hlong : r.checkContext c tiered = .error .longWhole := by decide +kernel
  have hbalks := (hcontext c).mp hlong
  have hreadable (e : Failure) : ¬r.StumblesAt tiered e := fun hstumbles => by
    have hvalid : r.checkSyntax tiered = .ok Findings.none := by decide +kernel
    cases hvalid.symm.trans (checkSyntax_stumbles.mpr hstumbles)
  exact ⟨hstumbles, herror, hpattern.mpr hstumbles, hconfiguration.mpr (.token hstumbles), hbalks,
    hlong, hgiven.mpr (.context hreadable rfl hbalks)⟩

end Registry

end SerialNumbers
