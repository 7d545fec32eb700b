/-
  SerialNumbers.Proofs.Validation

  What the checks of a context and of a configuration say about numbers.  Both go
  by the names of the tokens of a pattern.  The check of a context adds the keys
  that the variables of the tokens declare and the variables of the conditions,
  but not the keys that these declare; the check of a configuration leaves out the
  conditions altogether.

  Main statements: a context key that is found unused makes no difference, unless a
  condition asks for a registered variable that declares it
  (`Registry.unused_key_of_checkContext`), and a forbidden name makes none, unless
  a condition asks for it (`Registry.forbidden_name_of_checkConfiguration`); both
  also but for tokens that are put together from several segments.
-/
import SerialNumbers.Proofs.Pattern.Dependence

namespace SerialNumbers

open Pattern Text Time

/-! ## Warnings -/

/-- A warning after a chain of checks comes from before it or from one of them. -/
theorem Findings.mem_warnings_foldl {α : Type} {f : Findings → α → Findings} {p : α → Prop}
    {xs : List α} {found : Findings} {message : String}
    (h : message ∈ (xs.foldl f found).warnings)
    (hstep : ∀ found, ∀ x ∈ xs, message ∈ (f found x).warnings →
      message ∈ found.warnings ∨ p x) :
    message ∈ found.warnings ∨ ∃ x ∈ xs, p x := by
  induction xs generalizing found with
  | nil => exact .inl h
  | cons x xs ih =>
    rcases ih h fun found y hy => hstep found y (List.mem_cons_of_mem _ hy) with h | ⟨y, hy, hp⟩
    · rcases hstep found x List.mem_cons_self h with h | hp
      · exact .inl h
      · exact .inr ⟨x, List.mem_cons_self, hp⟩
    · exact .inr ⟨y, List.mem_cons_of_mem _ hy, hp⟩

/-- The same where the checks may fail. -/
theorem Findings.mem_warnings_foldlM {α : Type} {f : Findings → α → Except Failure Findings}
    {p : α → Prop} {xs : List α} {start found : Findings} {message : String}
    (h : xs.foldlM f start = .ok found) (hmem : message ∈ found.warnings)
    (hstep : ∀ before, ∀ x ∈ xs, ∀ after, f before x = .ok after → message ∈ after.warnings →
      message ∈ before.warnings ∨ p x) :
    message ∈ start.warnings ∨ ∃ x ∈ xs, p x := by
  induction xs generalizing start with
  | nil =>
    cases h
    exact .inl hmem
  | cons x xs ih =>
    rw [List.foldlM_cons] at h
    obtain ⟨next, hnext, h⟩ := Except.bind_eq_ok.mp h
    rcases ih h fun before y hy => hstep before y (List.mem_cons_of_mem _ hy) with
      hnextMem | ⟨y, hy, hp⟩
    · rcases hstep start x List.mem_cons_self next hnext hnextMem with hstart | hp
      · exact .inl hstart
      · exact .inr ⟨x, List.mem_cons_self, hp⟩
    · exact .inr ⟨y, List.mem_cons_of_mem _ hy, hp⟩

namespace Registry

variable {r : Registry} {c : Context} {t : Template} {pattern name key message : String}
  {before found : Findings}

/-- A variable that a context is checked for warns under its own name. -/
theorem mem_warnings_customFindings {v : Variable}
    (hcheck : customFindings c name v before = .ok found) (h : message ∈ found.warnings) :
    message ∈ before.warnings ∨ ∃ warning, message = name ++ ": " ++ warning := by
  unfold customFindings at hcheck
  dsimp only at hcheck
  split at hcheck
  · cases hcheck
    exact .inl h
  · obtain ⟨checked, -, hcheck⟩ := Except.bind_eq_ok.mp hcheck
    cases hcheck
    rcases Findings.mem_warnings_foldl (p := fun warning => message = name ++ ": " ++ warning) h
      fun found warning _ h => (List.mem_append.mp h).imp_right List.mem_singleton.mp with
      h | ⟨warning, -, heq⟩
    · rcases Findings.mem_warnings_foldl (p := fun _ => False) h
        fun found e _ h => .inl h with h | ⟨-, -, hfalse⟩
      · exact .inl h
      · exact hfalse.elim
    · exact .inr ⟨warning, heq⟩

theorem mem_warnings_variableFindings (hcheck : r.variableFindings c before name = .ok found)
    (h : message ∈ found.warnings) :
    message ∈ before.warnings ∨ ∃ warning, message = name ++ ": " ++ warning := by
  unfold variableFindings at hcheck
  split at hcheck
  · cases hcheck
    exact .inl h
  · split at hcheck
    · exact mem_warnings_customFindings hcheck h
    · cases hcheck
      split at h
      · exact .inl h
      · exact .inl h

/-- An entry is warned of where it is not used. -/
theorem mem_warnings_entryFindings {used : List String} {entry : String × Value}
    (h : message ∈ (entryFindings used found entry).warnings) :
    message ∈ found.warnings ∨
      message = s!"Context variable '{entry.1}' is not used by the pattern" ∧
        upper entry.1 ∉ used := by
  have hused {base : Findings}
      (h : message ∈ (if used.contains (upper entry.1) then base
        else base.warn s!"Context variable '{entry.1}' is not used by the pattern").warnings)
      (hbase : base.warnings = found.warnings) :
      message ∈ found.warnings ∨
        message = s!"Context variable '{entry.1}' is not used by the pattern" ∧
          upper entry.1 ∉ used := by
    split at h
    · rw [hbase] at h
      exact .inl h
    · rename_i hunused
      rw [List.contains_iff_mem] at hunused
      rcases List.mem_append.mp h with h | h
      · rw [hbase] at h
        exact .inl h
      · exact .inr ⟨List.mem_singleton.mp h, hunused⟩
  -- A problem of the value is an error and no warning.
  unfold entryFindings at h
  dsimp only at h
  cases hproblem : valueProblem? entry.2 with
  | none =>
    rw [hproblem] at h
    exact hused h rfl
  | some problem =>
    rw [hproblem] at h
    exact hused h rfl

/-- The variables of a pattern are those of its tokens. -/
theorem exists_token_of_mem_variableNames (hname : name ∈ t.variableNames) :
    ∃ token ∈ tokens t.text, token.name = name := by
  unfold Template.variableNames at hname
  rw [List.mem_eraseDups] at hname
  exact List.mem_map.mp hname

theorem upper_of_mem_variableNames (hname : name ∈ t.variableNames) : upper name = name := by
  obtain ⟨token, htoken, rfl⟩ := exists_token_of_mem_variableNames hname
  exact upper_name_of_mem_tokens htoken

/-- No variable warns in these words, whose second letter is no letter of a name. -/
theorem unused_ne_named (hname : name ∈ t.variableNames) (warning : String) :
    s!"Context variable '{key}' is not used by the pattern" ≠ name ++ ": " ++ warning := by
  intro heq
  obtain ⟨token, htoken, rfl⟩ := exists_token_of_mem_variableNames hname
  have hchars := nameChars_of_mem_tokens htoken
  have hlist := congrArg String.toList heq
  simp only [String.toList_append] at hlist
  -- Behind the first letter stands a colon or else a letter of the name.
  cases hletters : token.name.toList with
  | nil =>
    rw [hletters] at hlist
    exact absurd (List.cons.inj hlist).1 (by decide)
  | cons first rest =>
    rw [hletters] at hlist hchars
    have hlist := (List.cons.inj hlist).2
    cases rest with
    | nil => exact absurd (List.cons.inj hlist).1 (by decide)
    | cons second rest =>
      have hsecond := hchars second (List.mem_cons_of_mem _ List.mem_cons_self)
      rw [← (List.cons.inj hlist).1] at hsecond
      exact absurd hsecond (by decide)

/-- A key that is found unused is none of those that count as used. -/
theorem not_mem_usedKeys (hparse : Template.parse pattern = .ok t)
    (hcheck : r.checkContext c pattern = .ok found)
    (h : s!"Context variable '{key}' is not used by the pattern" ∈ found.warnings) :
    upper key ∉ r.usedKeys t := by
  unfold checkContext at hcheck
  rw [hparse] at hcheck
  obtain ⟨named, hnamed, hcheck⟩ := Except.bind_eq_ok.mp hcheck
  cases hcheck
  rcases Findings.mem_warnings_foldl h fun found e _ => mem_warnings_entryFindings with
    h | ⟨e, -, heq, hunused⟩
  · rcases Findings.mem_warnings_foldlM (p := fun _ => False) hnamed h
      fun before name hname after hafter h => by
        rcases mem_warnings_variableFindings hafter h with h | ⟨warning, heq⟩
        · exact .inl h
        · exact absurd heq (unused_ne_named hname warning) with h | ⟨-, -, hfalse⟩
    · cases h
    · exact hfalse.elim
  · -- The key stands between the same words.
    have hkey : key = e.1 := by
      have hlist := congrArg String.toList heq
      simp only [String.toList_append] at hlist
      exact String.toList_inj.mp
        (List.append_cancel_left (List.append_cancel_right hlist))
    rwa [hkey]

/-! ## Keys that count as used -/

/-- What the variable of a token reads counts as used. -/
theorem mem_usedKeys_of_token (hname : name ∈ t.variableNames) (hreads : r.Reads name key) :
    upper key ∈ r.usedKeys t := by
  have hupper := upper_of_mem_variableNames hname
  obtain ⟨read, hread, hkey⟩ := hreads
  refine List.mem_append_left _ (List.mem_flatMap.mpr ⟨name, hname, ?_⟩)
  rcases mem_keysRead hread with heq | ⟨v, hnamed, hget, hdeclared⟩
  · rw [← hkey, heq, hupper]
    split
    · exact List.mem_singleton_self name
    · split
      · exact List.mem_cons_self
      · exact List.mem_singleton_self name
  · rw [Builtin.isReserved, hnamed, if_neg (by decide)]
    rw [hupper] at hget
    rw [hget, ← hkey]
    exact List.mem_cons_of_mem _ (List.mem_map_of_mem hdeclared)

/-- What the variable of a condition reads counts as used, unless the variable is registered and
    declares it. -/
theorem mem_usedKeys_of_condition {d : Conditional} {choice : Choice}
    (hd : .conditional d ∈ t.segments) (hread : d.read.1 = some choice)
    (hreads : r.Reads choice.condition.subject key) :
    upper key ∈ r.usedKeys t ∨ ∃ v, r.get? (upper choice.condition.subject) = some v ∧
      ∃ declared ∈ v.keys, upper declared = upper key := by
  obtain ⟨read, hmem, hkey⟩ := hreads
  rcases mem_keysRead hmem with heq | ⟨v, -, hget, hdeclared⟩
  · rw [← hkey, heq]
    refine .inl (List.mem_append_right _ (List.mem_filterMap.mpr ⟨d, ?_, ?_⟩))
    · exact List.mem_filterMap.mpr ⟨_, hd, rfl⟩
    · rw [hread]
      rfl
  · exact .inr ⟨v, hget, read, hdeclared, hkey⟩

/-- A context key that is found unused by a valid pattern makes no difference to its numbers: they
    are the same without the key, unless a condition asks for a registered variable that declares
    the key, or the text that the conditionals leave has a token that reads it and that is none of
    the pattern; and then not every literal text and branch closes its own braces. -/
theorem unused_key_of_checkContext (hr : r.KeepsToKeys) (hcheck : r.checkSyntax pattern = .ok found)
    (hvalid : found.isValid = true) (hparse : Template.parse pattern = .ok t)
    {pairs : List (String × Value)} {checked : Findings}
    (hcontext : r.checkContext (Context.ofPairs pairs) pattern = .ok checked)
    (hwarned : s!"Context variable '{key}' is not used by the pattern" ∈ checked.warnings)
    (moment : Moment) (counter padding : Int) :
    let number (c : Context) : Except Failure String := do
      let t ← Template.parse pattern
      t.evaluate (← Scope.forMoment r c moment counter padding)
    number (Context.ofPairs pairs) = number ((Context.ofPairs pairs).without [key]) ∨
    (∃ d choice v, .conditional d ∈ t.segments ∧ d.checked = .ok choice ∧
      r.get? (upper choice.condition.subject) = some v ∧
      ∃ declared ∈ v.keys, upper declared = upper key) ∨
    ¬t.SegmentBalanced ∧ ∃ s expanded token,
      Scope.forMoment r (Context.ofPairs pairs) moment counter padding = .ok s ∧
      t.expand s.lookup = .ok expanded ∧ token ∈ tokens expanded ∧
      token.name ∉ t.variableNames ∧ r.Reads token.name key := by
  intro number
  obtain ⟨t', hparse', ht⟩ := checkSyntax_passes hcheck hvalid
  cases hparse.symm.trans hparse'
  have hunused := not_mem_usedKeys hparse hcontext hwarned
  have hc := Context.keyed_ofPairs pairs
  by_cases hsame : number (Context.ofPairs pairs) = number ((Context.ofPairs pairs).without [key])
  · exact .inl hsame
  · rcases reads_of_ne hr hc (Context.keyed_ofPairs _) (fun name hne => (hc.get?_without hne).symm)
      hparse ht (fun name hname hreads => hunused (mem_usedKeys_of_token hname hreads)) hsame with
      ⟨d, choice, hd, hchecked, hreads⟩ | hspliced
    · -- The variable counts as used by its name, but not by what it declares.
      obtain ⟨choice', hread, hchecked'⟩ := ht.readable d hd
      cases hchecked.symm.trans hchecked'
      rcases mem_usedKeys_of_condition hd hread hreads with hused | ⟨v, hv, hdeclared⟩
      · exact absurd hused hunused
      · exact .inr (.inl ⟨d, choice, v, hd, hchecked, hv, hdeclared⟩)
    · exact .inr (.inr hspliced)

/-- The code of a department, which only a condition on the department reads: found unused, and the
    number is another one without it. -/
theorem unused_key_of_checkContext_department :
    let region := Variable.plain "REGION" "" ["region"] [] ["SHORT"] none
      (Variable.fromKey "region")
    let r : Registry := ⟨⟨(region :: Stock.all).map fun v => (v.name, v)⟩⟩
    let pattern := "\x7bREGION\x7d-\x7b?Department?A:B\x7d-\x7bCOUNTER:3\x7d"
    let pairs := [("region", Value.text "eu"), ("department_code", .text "sales")]
    let key := "department_code"
    let moment : Moment := ⟨Moment.midnight ⟨2024, 1, 1⟩, some .utc, false⟩
    let number (c : Context) : Except Failure String := do
      let t ← Template.parse pattern
      t.evaluate (← Scope.forMoment r c moment 7 5)
    r.KeepsToKeys ∧ r.checkSyntax pattern = .ok Findings.none ∧
      (∃ checked, r.checkContext (Context.ofPairs pairs) pattern = .ok checked ∧
        s!"Context variable '{key}' is not used by the pattern" ∈ checked.warnings) ∧
      number (Context.ofPairs pairs) = .ok "EU-A-007" ∧
      number ((Context.ofPairs pairs).without [key]) = .ok "EU-B-007" ∧
      ∃ t d choice v, Template.parse pattern = .ok t ∧ .conditional d ∈ t.segments ∧
        d.checked = .ok choice ∧ r.get? (upper choice.condition.subject) = some v ∧
        ∃ declared ∈ v.keys, upper declared = upper key := by
  intro region r pattern pairs key moment number
  have hr : r.KeepsToKeys := by
    refine keepsToKeys_of_entries fun e he => ?_
    obtain ⟨v, hv, rfl⟩ := List.mem_map.mp he
    rcases List.mem_cons.mp hv with rfl | hv
    · refine Variable.keepsToKeys_plain fun {c c'} h => ?_
      unfold Variable.fromKey
      rw [h "region" List.mem_cons_self]
    · exact Stock.keepsToKeys hv
  have hcheck : r.checkSyntax pattern = .ok Findings.none := by decide +kernel
  have hcontext : r.checkContext (Context.ofPairs pairs) pattern =
      .ok (Findings.success [s!"Context variable '{key}' is not used by the pattern"]) := by
    decide +kernel
  have hwith : number (Context.ofPairs pairs) = .ok "EU-A-007" := by decide +kernel
  have hwithout : number ((Context.ofPairs pairs).without [key]) = .ok "EU-B-007" := by
    decide +kernel
  obtain ⟨t, hparse, hbalanced⟩ : ∃ t, Template.parse pattern = .ok t ∧ t.SegmentBalanced := by
    refine ⟨⟨pattern, (Pattern.segments pattern.toList).1, (Pattern.segments pattern.toList).2⟩,
      ?_, ?_⟩
    · decide +kernel
    · decide +kernel
  refine ⟨hr, hcheck, ⟨_, hcontext, List.mem_cons_self⟩, hwith, hwithout, t, ?_⟩
  rcases unused_key_of_checkContext hr hcheck rfl hparse hcontext List.mem_cons_self moment 7 5 with
    hsame | ⟨d, choice, v, hasked⟩ | ⟨hunbalanced, -⟩
  · exact absurd (Except.ok.inj (hwith.symm.trans (hsame.trans hwithout))) (by decide)
  · exact ⟨d, choice, v, hparse, hasked⟩
  · exact absurd hbalanced hunbalanced

/-! ## Restrictions -/

/-- A pattern that is found valid has a valid syntax. -/
theorem checkSyntax_of_checkPattern (h : r.checkPattern pattern = .ok found)
    (hvalid : found.isValid = true) :
    ∃ found', r.checkSyntax pattern = .ok found' ∧ found'.isValid = true := by
  obtain ⟨found', hfound', h⟩ := Except.bind_eq_ok.mp h
  refine ⟨found', hfound', ?_⟩
  split at h
  · rw [← Except.ok.inj h] at hvalid
    split at hvalid
    · assumption
    · exact hvalid
  · rwa [← Except.ok.inj h] at hvalid

theorem contextFindings_isValid {context : Option Context}
    (h : r.contextFindings pattern context before = .ok found) (hvalid : found.isValid = true) :
    before.isValid = true := by
  unfold contextFindings at h
  split at h
  · obtain ⟨checked, -, rfl⟩ := Except.map_eq_ok.mp h
    rw [Findings.isValid_merge, Bool.and_eq_true] at hvalid
    exact hvalid.1
  · cases h
    exact hvalid

theorem limitFindings_isValid {limit : Option Int}
    (h : limitFindings pattern limit before = .ok found) (hvalid : found.isValid = true) :
    before.isValid = true := by
  unfold limitFindings at h
  split at h
  · split at h
    · obtain ⟨text, -, h⟩ := Except.bind_eq_ok.mp h
      cases h
      rw [Findings.isValid_error] at hvalid
      cases hvalid
    · cases h
      exact hvalid
  · cases h
    exact hvalid

/-- In a configuration that is found valid the pattern has a valid syntax, and none of the forbidden
    names is that of one of its variables. -/
theorem of_checkConfiguration {context : Option Context} {limit : Option Int}
    {forbidden : List String} (h : r.checkConfiguration pattern context limit forbidden = .ok found)
    (hvalid : found.isValid = true) (hparse : Template.parse pattern = .ok t) :
    (∃ found', r.checkSyntax pattern = .ok found' ∧ found'.isValid = true) ∧
      ∀ name ∈ forbidden, upper name ∉ t.variableNames := by
  obtain ⟨checked, hpattern, h⟩ := Except.bind_eq_ok.mp h
  obtain ⟨merged, hcontext, h⟩ := Except.bind_eq_ok.mp h
  obtain ⟨short, hlimit, h⟩ := Except.bind_eq_ok.mp h
  rw [← Except.ok.inj h] at hvalid
  unfold forbiddenFindings at hvalid
  rw [hparse] at hvalid
  obtain ⟨hvalid, hnames⟩ := Findings.forall_of_foldl
    (p := fun name => upper name ∉ t.variableNames) hvalid fun found name hname => by
      split at hname
      · rw [Findings.isValid_error] at hname
        cases hname
      · rename_i habsent
        unfold Template.hasVariable at habsent
        rw [List.contains_iff_mem] at habsent
        exact ⟨hname, habsent⟩
  exact ⟨checkSyntax_of_checkPattern hpattern
    (contextFindings_isValid hcontext (limitFindings_isValid hlimit hvalid)), hnames⟩

/-- Without registered variables a name reads no other key than its own. -/
theorem upper_eq_of_reads (h : empty.Reads name key) : upper name = upper key := by
  obtain ⟨read, hread, hkey⟩ := h
  rcases mem_keysRead hread with heq | ⟨v, -, hget, -⟩
  · rw [← heq, hkey]
  · cases hget

/-- A name that a valid configuration forbids makes no difference to the numbers of its pattern
    where no variable is registered: contexts that agree in all other keys make the same number,
    unless a condition asks for the name, or the text that the conditionals leave has a token of
    this name that is none of the pattern; and then not every literal text and branch closes its
    own braces. -/
theorem forbidden_name_of_checkConfiguration {context : Option Context} {limit : Option Int}
    {forbidden : List String}
    (hcheck : empty.checkConfiguration pattern context limit forbidden = .ok found)
    (hvalid : found.isValid = true) (hparse : Template.parse pattern = .ok t)
    (hforbidden : name ∈ forbidden) {pairs pairs' : List (String × Value)}
    (hagree : ∀ other, upper other ≠ upper name →
      (Context.ofPairs pairs).get? other = (Context.ofPairs pairs').get? other)
    (moment : Moment) (counter padding : Int) :
    let number (pairs : List (String × Value)) : Except Failure String := do
      let t ← Template.parse pattern
      t.evaluate (← Scope.forMoment empty (Context.ofPairs pairs) moment counter padding)
    number pairs = number pairs' ∨
    (∃ d choice, .conditional d ∈ t.segments ∧ d.checked = .ok choice ∧
      upper choice.condition.subject = upper name) ∨
    ¬t.SegmentBalanced ∧ ∃ s expanded token,
      Scope.forMoment empty (Context.ofPairs pairs) moment counter padding = .ok s ∧
      t.expand s.lookup = .ok expanded ∧ token ∈ tokens expanded ∧ token.name = upper name ∧
      upper name ∉ t.variableNames := by
  intro number
  obtain ⟨⟨found', hsyntax, hvalid'⟩, hnames⟩ := of_checkConfiguration hcheck hvalid hparse
  obtain ⟨t', hparse', ht⟩ := checkSyntax_passes hsyntax hvalid'
  cases hparse.symm.trans hparse'
  have hunread (other) (hother : other ∈ t.variableNames) : ¬empty.Reads other name := by
    intro hreads
    have heq := upper_eq_of_reads hreads
    rw [upper_of_mem_variableNames hother] at heq
    exact hnames name hforbidden (heq ▸ hother)
  by_cases hsame : number pairs = number pairs'
  · exact .inl hsame
  · rcases reads_of_ne keepsToKeys_empty (Context.keyed_ofPairs pairs)
      (Context.keyed_ofPairs pairs') hagree hparse ht hunread hsame with
      ⟨d, choice, hd, hchecked, hreads⟩ |
        ⟨hunbalanced, s, expanded, token, hs, hexpand, htoken, -, hreads⟩
    · exact .inr (.inl ⟨d, choice, hd, hchecked, upper_eq_of_reads hreads⟩)
    · have heq := upper_eq_of_reads hreads
      rw [upper_name_of_mem_tokens htoken] at heq
      exact .inr (.inr ⟨hunbalanced, s, expanded, token, hs, hexpand, htoken, heq,
        hnames name hforbidden⟩)

/-- A forbidden tier that a condition asks for. -/
theorem forbidden_name_of_checkConfiguration_tier :
    let pattern := "\x7b?Tier=VIP?V:S\x7d-\x7bCLIENT\x7d-\x7bCOUNTER:3\x7d"
    let pairs := [("tier", Value.text "vip"), ("Client", .text "acme")]
    let pairs' := [("client", Value.text "acme")]
    let moment : Moment := ⟨Moment.midnight ⟨2024, 1, 1⟩, some .utc, false⟩
    let number (pairs : List (String × Value)) : Except Failure String := do
      let t ← Template.parse pattern
      t.evaluate (← Scope.forMoment empty (Context.ofPairs pairs) moment 7 5)
    empty.checkConfiguration pattern (some (Context.ofPairs pairs)) (some 40) ["TIER"] =
        .ok Findings.none ∧
      (∀ other, upper other ≠ upper "TIER" →
        (Context.ofPairs pairs).get? other = (Context.ofPairs pairs').get? other) ∧
      number pairs = .ok "V-acme-007" ∧ number pairs' = .ok "S-acme-007" ∧
      ∃ t d choice, Template.parse pattern = .ok t ∧ .conditional d ∈ t.segments ∧
        d.checked = .ok choice ∧ upper choice.condition.subject = upper "TIER" := by
  intro pattern pairs pairs' moment number
  have hcheck : empty.checkConfiguration pattern (some (Context.ofPairs pairs)) (some 40)
      ["TIER"] = .ok Findings.none := by decide +kernel
  have hagree (other : String) (hother : upper other ≠ upper "TIER") :
      (Context.ofPairs pairs).get? other = (Context.ofPairs pairs').get? other := by
    have htier : upper "tier" = upper "TIER" := by decide +kernel
    have hclient : upper "Client" = upper "client" := by decide +kernel
    have hne : (upper other == upper "TIER") = false := beq_eq_false_iff_ne.mpr hother
    rw [Context.get?_ofPairs, Context.get?_ofPairs]
    simp only [pairs, pairs', List.reverse_cons, List.reverse_nil, List.nil_append,
      List.cons_append, List.find?_cons, htier, hclient, hne]
    cases upper other == upper "client" <;> rfl
  have hwith : number pairs = .ok "V-acme-007" := by decide +kernel
  have hwithout : number pairs' = .ok "S-acme-007" := by decide +kernel
  obtain ⟨t, hparse, hbalanced⟩ : ∃ t, Template.parse pattern = .ok t ∧ t.SegmentBalanced := by
    refine ⟨⟨pattern, (Pattern.segments pattern.toList).1, (Pattern.segments pattern.toList).2⟩,
      ?_, ?_⟩
    · decide +kernel
    · decide +kernel
  refine ⟨hcheck, hagree, hwith, hwithout, t, ?_⟩
  rcases forbidden_name_of_checkConfiguration hcheck rfl hparse List.mem_cons_self hagree moment 7 5
    with hsame | ⟨d, choice, hasked⟩ | ⟨hunbalanced, -⟩
  · exact absurd (Except.ok.inj (hwith.symm.trans (hsame.trans hwithout))) (by decide)
  · exact ⟨d, choice, hparse, hasked⟩
  · exact absurd hbalanced hunbalanced

end Registry

end SerialNumbers
