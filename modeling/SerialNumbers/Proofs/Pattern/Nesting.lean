/-
  SerialNumbers.Proofs.Pattern.Nesting

  Conditionals inside conditionals.  The check of a pattern looks for them in the
  two branches of a conditional, that is, behind its first question mark.  It
  finds every one that opens there.  One whose own question mark is that first
  one is not found: what stands before it is then read as the condition, and its
  brace as the end of the operand.

  Main statement: exactly what the check reports, and where alone a conditional
  may open inside a conditional of a pattern that is found valid
  (`Registry.checkSyntax_nested`).
-/
import SerialNumbers.Proofs.Pattern.Segment
import SerialNumbers.Proofs.Text.Blank

namespace SerialNumbers

open Pattern Text

/-! ## Codes -/

namespace Findings

variable {code : String}

theorem mem_addCode {codes : List String} {added : String} (h : added.isEmpty = false) :
    code ∈ addCode codes added ↔ code ∈ codes ∨ code = added := by
  unfold addCode
  rw [h, Bool.false_or]
  split
  · rename_i hlisted
    constructor
    · exact .inl
    · rintro (hcode | rfl)
      · exact hcode
      · exact List.contains_iff_mem.mp hlisted
  · rw [List.mem_append, List.mem_singleton]

theorem mem_foldl_takeCode (codes more : List String) :
    code ∈ more.foldl takeCode codes ↔ code ∈ codes ∨ code ∈ more := by
  induction more generalizing codes with
  | nil => simp
  | cons taken more ih =>
    have htake : code ∈ takeCode codes taken ↔ code ∈ codes ∨ code = taken := by
      unfold takeCode
      split
      · rename_i hlisted
        have htaken : taken ∈ codes := List.contains_iff_mem.mp hlisted
        exact ⟨.inl, Or.rec id fun hcode => hcode ▸ htaken⟩
      · rw [List.mem_append, List.mem_singleton]
    rw [List.foldl_cons, ih, htake, List.mem_cons, or_assoc]

/-- What a check reports is reported by one of its parts. -/
theorem mem_codes_merge (f g : Findings) :
    code ∈ (f.merge g).codes ↔ code ∈ f.codes ∨ code ∈ g.codes :=
  mem_foldl_takeCode f.codes g.codes

theorem mem_codes_foldl_merge {α : Type} (f : α → Findings) (xs : List α) (found : Findings) :
    code ∈ (xs.foldl (fun found x => found.merge (f x)) found).codes ↔
      code ∈ found.codes ∨ ∃ x ∈ xs, code ∈ (f x).codes := by
  induction xs generalizing found with
  | nil => simp
  | cons x xs ih =>
    rw [List.foldl_cons, ih, mem_codes_merge]
    simp [or_assoc]

/-- An error adds its own code and no other. -/
theorem mem_codes_error_of_ne (found : Findings) (message : String) {added : String}
    (h : added.isEmpty = false) (hne : code ≠ added) :
    code ∈ (found.error message added).codes ↔ code ∈ found.codes := by
  show code ∈ addCode found.codes added ↔ _
  rw [mem_addCode h]
  exact ⟨fun hcode => hcode.resolve_right hne, .inl⟩

end Findings

/-! ## Openings -/

namespace Pattern

variable {cs rest xs ys : List Char}

/-- A conditional opens in a joined text where it opens in a part, unless the parts meet between
    its brace and its question mark. -/
theorem opensConditional_append (h : ys.head? ≠ some '?') :
    opensConditional (xs ++ ys) = (opensConditional xs || opensConditional ys) := by
  induction xs with
  | nil => rfl
  | cons c xs ih =>
    have hhead : ((xs ++ ys).head? == some '?') = (xs.head? == some '?') := by
      cases xs with
      | nil => simpa using h
      | cons d xs => rfl
    rw [List.cons_append, opensConditional, opensConditional, hhead, ih, Bool.or_assoc]

/-- Splitting at a colon hides no conditional. -/
theorem opensConditional_of_splitBranches {depth : Int} {first second : List Char}
    (h : splitBranches depth cs = (first, second)) :
    opensConditional cs = (opensConditional first || opensConditional second) := by
  rcases text_of_splitBranches h with rfl | ⟨rfl, rfl⟩
  · exact opensConditional_append (by simp)
  · exact (Bool.or_false _).symm

/-! ## Conditions with a brace at their end -/

/-- The second text is what is left of the first when a part without open braces is taken off
    its front. -/
def LeavesOpen (cs rest : List Char) : Prop :=
  ∃ taken, cs = taken ++ rest ∧ '\x7b' ∉ taken

theorem LeavesOpen.trans {more : List Char} (h : LeavesOpen cs rest) (h' : LeavesOpen rest more) :
    LeavesOpen cs more := by
  obtain ⟨taken, rfl, htaken⟩ := h
  obtain ⟨taken', rfl, htaken'⟩ := h'
  exact ⟨taken ++ taken', by simp, by simp [htaken, htaken']⟩

theorem leavesOpen_append {taken : List Char} (h : '\x7b' ∉ taken) (rest : List Char) :
    LeavesOpen (taken ++ rest) rest :=
  ⟨taken, rfl, h⟩

theorem leavesOpen_dropWhile {p : Char → Bool} (h : p '\x7b' = false) (cs : List Char) :
    LeavesOpen cs (cs.dropWhile p) := by
  refine ⟨cs.takeWhile p, List.takeWhile_append_dropWhile.symm, fun hbrace => ?_⟩
  have hp := List.mem_takeWhile_imp hbrace
  rw [h] at hp
  cases hp

theorem leavesOpen_trimStart (cs : List Char) : LeavesOpen cs (trimStart cs) :=
  leavesOpen_dropWhile rfl cs

/-- A brace at the end is still there when only other text is taken off the front. -/
theorem LeavesOpen.ends (h : LeavesOpen (xs ++ ['\x7b']) rest) :
    ∃ ys, rest = ys ++ ['\x7b'] := by
  obtain ⟨taken, heq, htaken⟩ := h
  rcases List.eq_nil_or_concat rest with rfl | ⟨ys, d, rfl⟩
  · rw [List.append_nil] at heq
    rw [← heq] at htaken
    simp at htaken
  · rw [List.concat_eq_append, ← List.append_assoc] at heq
    have hd : ['\x7b'] = [d] := List.append_inj_right' heq rfl
    exact ⟨ys, by rw [hd, List.concat_eq_append]⟩

theorem leavesOpen_of_subject? {subject : String} (h : subject? cs = some (subject, rest)) :
    LeavesOpen cs rest := by
  unfold subject? at h
  dsimp only at h
  split at h
  · cases h
    exact (leavesOpen_trimStart cs).trans (leavesOpen_dropWhile rfl _)
  · cases h

theorem leavesOpen_of_wordBetween? {word : List Char} (hword : '\x7b' ∉ word)
    (h : wordBetween? word cs = some rest) : LeavesOpen cs rest := by
  unfold wordBetween? at h
  split at h
  · dsimp only at h
    split at h
    · rename_i c tail hstart
      split at h
      · rename_i d more hdrop
        split at h
        · cases h
          have hprefix : word.isPrefixOf (trimStart (c :: tail)) = true :=
            (Bool.and_eq_true_iff.mp hstart).2
          obtain ⟨left, hleft⟩ := List.isPrefixOf_iff_prefix.mp hprefix
          rw [← hleft, List.drop_left] at hdrop
          have htrim := leavesOpen_trimStart (c :: tail)
          rw [← hleft, hdrop] at htrim
          exact (htrim.trans (leavesOpen_append hword _)).trans (leavesOpen_trimStart _)
        · cases h
      · cases h
    · cases h
  · cases h

theorem leavesOpen_of_operator? {o : Operator} (h : operator? cs = some (o, rest)) :
    LeavesOpen cs rest := by
  have hsymbol (symbol : List Char) (hbrace : '\x7b' ∉ symbol)
      (htrim : trimStart cs = symbol ++ rest) : LeavesOpen cs rest := by
    have hblanks := leavesOpen_trimStart cs
    rw [htrim] at hblanks
    exact hblanks.trans (leavesOpen_append hbrace rest)
  unfold operator? at h
  split at h
  · rename_i heq
    cases h
    exact hsymbol ['!', '='] (by decide) heq
  · rename_i heq
    cases h
    exact hsymbol ['>', '='] (by decide) heq
  · rename_i heq
    cases h
    exact hsymbol ['<', '='] (by decide) heq
  · rename_i heq
    cases h
    exact hsymbol ['='] (by decide) heq
  · rename_i heq
    cases h
    exact hsymbol ['>'] (by decide) heq
  · rename_i heq
    cases h
    exact hsymbol ['<'] (by decide) heq
  · split at h
    · rename_i hword
      cases h
      exact leavesOpen_of_wordBetween? (by decide) hword
    · obtain ⟨found, hword, heq⟩ := Option.map_eq_some_iff.mp h
      cases heq
      exact leavesOpen_of_wordBetween? (by decide) hword

/-- A condition whose text ends with a brace compares with an operand that ends with it. -/
theorem Condition.operand_of_read? {asked : Condition}
    (h : Condition.read? (xs ++ ['\x7b']) = some asked) :
    ∃ o operand, asked.comparison = some (o, operand ++ "\x7b") := by
  unfold Condition.read? at h
  obtain ⟨⟨subject, rest⟩, hsubject, h⟩ := Option.bind_eq_some_iff.mp h
  obtain ⟨rest, rfl⟩ := (leavesOpen_of_subject? hsubject).ends
  dsimp only at h
  split at h
  · rename_i o operand hoperator
    -- What follows the operator ends with the brace, and trimming keeps it.
    obtain ⟨operand, rfl⟩ := (leavesOpen_of_operator? hoperator).ends
    obtain ⟨trimmed, htrimmed⟩ := (leavesOpen_trimStart (operand ++ ['\x7b'])).ends
    have htrim : trim (operand ++ ['\x7b']) = trimmed ++ ['\x7b'] := by
      rw [trim, htrimmed]
      exact trimEnd_append (by decide) trimmed
    rw [htrim] at h
    split at h
    · cases h
    · cases h
      exact ⟨o, String.ofList trimmed, by simp⟩
  · -- A name alone leaves nothing but blanks.
    split at h
    · rename_i hblank
      have hbrace := List.all_eq_true.mp hblank '\x7b' (by simp)
      cases hbrace
    · cases h

/-! ## Conditionals -/

namespace Conditional

variable {c : Conditional}

/-- What stands behind the condition, from its question mark on. -/
def branches (c : Conditional) : List Char :=
  c.body.dropWhile (· != '?')

theorem branches_eq_cons {mark : Char} {rest : List Char} (h : c.branches = mark :: rest) :
    mark = '?' := by
  have hstop := List.head?_dropWhile_not (· != '?') c.body
  rw [show c.body.dropWhile (· != '?') = mark :: rest from h] at hstop
  simpa using hstop

/-- The check of two branches finds something wrong, and reports a nested conditional, where one
    opens in them. -/
theorem branchFindings_iff (c : Conditional) (whenTrue whenFalse : List Char) :
    (Findings.nestedConditional ∈ (branchFindings c whenTrue whenFalse).codes ↔
      (opensConditional whenTrue || opensConditional whenFalse) = true) ∧
    (branchFindings c whenTrue whenFalse).isValid =
      !(opensConditional whenTrue || opensConditional whenFalse) := by
  have hwarn (found : Findings) (message : String) : (found.warn message).codes = found.codes := rfl
  unfold branchFindings
  dsimp only
  cases opensConditional whenTrue || opensConditional whenFalse with
  | false =>
    have hnone : Findings.none.codes = [] ∧ Findings.none.isValid = true := ⟨rfl, rfl⟩
    split <;> simp [hwarn, hnone]
  | true =>
    have hcode : Findings.nestedConditional ∈ (Findings.none.error
        ("Nested conditionals are not supported: " ++ String.ofList c.raw)
        Findings.nestedConditional).codes := by
      show _ ∈ Findings.addCode [] Findings.nestedConditional
      exact (Findings.mem_addCode rfl).mpr (.inr rfl)
    split <;> simp [hwarn, hcode]

/-- Beside what is wrong with its branches, only the condition can be wrong. -/
theorem findings_of_branches {rest : List Char} (h : c.branches = '?' :: rest) :
    let found := branchFindings c (splitBranches 0 rest).1 (splitBranches 0 rest).2
    c.read.2 = found ∨ ∃ message, c.read.2 = found.error message Findings.invalidCondition := by
  unfold read
  rw [show c.body.dropWhile (· != '?') = '?' :: rest from h]
  dsimp only
  cases Condition.read? (c.body.takeWhile (· != '?')) with
  | none => exact .inr ⟨_, rfl⟩
  | some asked =>
    dsimp only
    split
    · exact .inr ⟨_, rfl⟩
    · exact .inl rfl

theorem opensConditional_branches {rest : List Char} (h : c.branches = '?' :: rest) :
    opensConditional c.branches = (opensConditional (splitBranches 0 rest).1 ||
      opensConditional (splitBranches 0 rest).2) := by
  rw [h, ← opensConditional_of_splitBranches rfl]
  rfl

theorem findings_of_branches_eq_nil (h : c.branches = []) : c.read.2 = Findings.none.error
    ("Conditional is missing '?' before its branch: " ++ String.ofList c.raw)
    Findings.missingTrueBranch := by
  unfold read
  rw [show c.body.dropWhile (· != '?') = [] from h]

/-- Reading a conditional reports a nested one exactly where one opens behind the condition. -/
theorem mem_codes_read : Findings.nestedConditional ∈ c.read.2.codes ↔
    opensConditional c.branches = true := by
  cases hbranches : c.branches with
  | nil =>
    rw [findings_of_branches_eq_nil hbranches, Findings.mem_codes_error_of_ne _ _ rfl (by decide)]
    simp [Findings.none, opensConditional]
  | cons mark rest =>
    obtain rfl := branches_eq_cons hbranches
    rw [← hbranches, opensConditional_branches hbranches, ← (branchFindings_iff c _ _).1]
    rcases findings_of_branches hbranches with hfound | ⟨message, hfound⟩
    · rw [hfound]
    · rw [hfound]
      exact Findings.mem_codes_error_of_ne _ _ rfl (by decide)

/-- Nothing is wrong with a conditional only if none opens behind its condition. -/
theorem opensConditional_of_isValid (h : c.read.2.isValid = true) :
    opensConditional c.branches = false := by
  cases hbranches : c.branches with
  | nil => rfl
  | cons mark rest =>
    obtain rfl := branches_eq_cons hbranches
    rw [← hbranches, opensConditional_branches hbranches]
    rcases findings_of_branches hbranches with hfound | ⟨message, hfound⟩
    · rw [hfound, (branchFindings_iff c _ _).2] at h
      simpa using h
    · rw [hfound, Findings.isValid_error] at h
      cases h

/-- Where nothing is wrong with a conditional, another opens in it at most at the end of the
    operand, and there is no third. -/
theorem opening_of_checked {choice : Choice} {before after : List Char}
    (hread : c.read.1 = some choice) (hchecked : c.checked = .ok choice)
    (hbody : c.body = before ++ '\x7b' :: '?' :: after) :
    c.branches = '?' :: after ∧ opensConditional after = false ∧
      ∃ o operand, choice.condition.comparison = some (o, operand ++ "\x7b") := by
  have hclosed := opensConditional_of_isValid (isValid_of_checked hchecked)
  have hmark : ∀ d ∈ before, (d != '?') = true := by
    -- Otherwise the inner conditional would open behind a question mark before it.
    by_contra hmark
    have hne : before.dropWhile (· != '?') ≠ [] := by rwa [ne_eq, List.dropWhile_eq_nil_iff]
    rw [branches, hbody, List.dropWhile_append, if_neg (by rwa [List.isEmpty_iff]),
      opensConditional_append (by simp)] at hclosed
    simp [opensConditional] at hclosed
  have hquestion : ∀ d ∈ before ++ ['\x7b'], (d != '?') = true :=
    List.forall_mem_append.mpr ⟨hmark, List.forall_mem_singleton.mpr rfl⟩
  have hbody : c.body = (before ++ ['\x7b']) ++ '?' :: after := by simp [hbody]
  have hbranches : c.branches = '?' :: after := by
    rw [branches, hbody]
    exact List.dropWhile_append_of_pos hquestion
  obtain ⟨-, -, hcondition, -⟩ := parts_of_read hread
  rw [asked, hbody, List.takeWhile_append_of_pos hquestion] at hcondition
  rw [hbranches] at hclosed
  exact ⟨hbranches, hclosed, Condition.operand_of_read? (by simpa using hcondition)⟩

end Conditional

end Pattern

/-! ## The whole check -/

/-- The check of the conditionals reports a nested one exactly where one opens behind the
    condition of a conditional. -/
theorem Template.mem_codes_conditionalFindings {t : Template} :
    Findings.nestedConditional ∈ t.conditionalFindings.codes ↔
      ∃ c, .conditional c ∈ t.segments ∧ opensConditional c.branches = true := by
  have hstructure : Findings.nestedConditional ∉ (t.structureErrors.foldl
      (fun found e => found.error e Findings.unclosedConditional) Findings.none).codes := by
    unfold structureErrors
    cases t.unclosed with
    | none => simp [Findings.none]
    | some position =>
      show ¬Findings.nestedConditional ∈ (Findings.none.error _ Findings.unclosedConditional).codes
      rw [Findings.mem_codes_error_of_ne _ _ rfl (by decide)]
      simp [Findings.none]
  unfold conditionalFindings
  rw [Findings.mem_codes_foldl_merge]
  simp only [hstructure, false_or, Conditional.mem_codes_read]
  constructor
  · rintro ⟨c, hc, hopens⟩
    obtain ⟨segment, hsegment, heq⟩ := List.mem_filterMap.mp hc
    cases segment with
    | literal text => cases heq
    | conditional c' =>
      cases heq
      exact ⟨c, hsegment, hopens⟩
  · rintro ⟨c, hc, hopens⟩
    exact ⟨c, List.mem_filterMap.mpr ⟨_, hc, rfl⟩, hopens⟩

namespace Registry

variable {r : Registry} {pattern : String} {t : Template} {found : Findings}

/-- The check of what stands in braces reports nothing about nesting. -/
theorem mem_codes_bodyFindings {inside : List Char} {found' : Findings}
    (h : r.bodyFindings inside found = .ok found') :
    Findings.nestedConditional ∈ found'.codes ↔ Findings.nestedConditional ∈ found.codes := by
  unfold bodyFindings at h
  dsimp only at h
  split at h
  · cases h
    exact Findings.mem_codes_error_of_ne _ _ rfl (by decide)
  · split at h
    · cases h
      exact Findings.mem_codes_error_of_ne _ _ rfl (by decide)
    · cases h
      exact Iff.rfl
    · obtain ⟨problem?, -, h⟩ := Except.bind_eq_ok.mp h
      cases problem? with
      | some problem =>
        cases h
        exact Findings.mem_codes_error_of_ne _ _ rfl (by decide)
      | none =>
        cases h
        exact Iff.rfl

theorem mem_codes_foldlM_bodyFindings {insides : List (List Char)} {found' : Findings}
    (h : insides.foldlM (fun found inside => r.bodyFindings inside found) found = .ok found') :
    Findings.nestedConditional ∈ found'.codes ↔ Findings.nestedConditional ∈ found.codes := by
  induction insides generalizing found with
  | nil =>
    cases h
    exact Iff.rfl
  | cons inside insides ih =>
    rw [List.foldlM_cons] at h
    obtain ⟨next, hnext, hrest⟩ := Except.bind_eq_ok.mp h
    rw [ih hrest, mem_codes_bodyFindings hnext]

/-- A pattern that has a template is checked through it. -/
theorem checkSyntax_of_parse (h : Template.parse pattern = .ok t) :
    r.checkSyntax pattern = r.templateFindings t := by
  unfold Template.parse at h
  unfold checkSyntax
  split at h
  · cases h
  · rename_i hnonempty
    split at h
    · cases h
    · rename_i hshort
      cases h
      rw [if_neg hnonempty, if_neg hshort]
      rfl

/-- The check reports a nested conditional exactly where one opens behind the condition of a
    conditional. -/
theorem mem_codes_checkSyntax (hcheck : r.checkSyntax pattern = .ok found)
    (hparse : Template.parse pattern = .ok t) :
    Findings.nestedConditional ∈ found.codes ↔
      ∃ c, .conditional c ∈ t.segments ∧ opensConditional c.branches = true := by
  rw [checkSyntax_of_parse hparse] at hcheck
  rw [← Template.mem_codes_conditionalFindings]
  unfold templateFindings at hcheck
  dsimp only at hcheck
  split at hcheck
  · cases hcheck
    exact Iff.rfl
  · split at hcheck
    · cases hcheck
      exact Findings.mem_codes_error_of_ne _ _ rfl (by decide)
    · obtain ⟨found', hfound, hcheck⟩ := Except.bind_eq_ok.mp hcheck
      rw [← mem_codes_foldlM_bodyFindings hfound, ← Except.ok.inj hcheck]
      split <;> rfl

/-- The check reports a nested conditional exactly where one opens behind the condition of a
    conditional.  In a pattern that it finds valid a conditional opens inside another only right
    at the end of the condition, where its brace is read as the end of the operand. -/
theorem checkSyntax_nested (hcheck : r.checkSyntax pattern = .ok found)
    (hparse : Template.parse pattern = .ok t) :
    (Findings.nestedConditional ∈ found.codes ↔
      ∃ c, .conditional c ∈ t.segments ∧ opensConditional c.branches = true) ∧
    (found.isValid = true → ∀ c before after, .conditional c ∈ t.segments →
      c.body = before ++ '\x7b' :: '?' :: after →
        c.branches = '?' :: after ∧ opensConditional after = false ∧
          ∃ choice o operand, c.read.1 = some choice ∧
            choice.condition.comparison = some (o, operand ++ "\x7b")) := by
  refine ⟨mem_codes_checkSyntax hcheck hparse, fun hvalid c before after hc hbody => ?_⟩
  obtain ⟨t', hparse', hpasses⟩ := checkSyntax_passes hcheck hvalid
  rw [hparse] at hparse'
  cases hparse'
  obtain ⟨choice, hread, hchecked⟩ := hpasses.readable c hc
  obtain ⟨hbranches, hclosed, o, operand, hcomparison⟩ :=
    Conditional.opening_of_checked hread hchecked hbody
  exact ⟨hbranches, hclosed, choice, o, operand, hread, hcomparison⟩

/-- The conditional that opens at the end of the condition is not found: the pattern is valid,
    and the condition asks whether the tier is a brace. -/
theorem checkSyntax_nested_operand :
    let pattern := "\x7b?TIER=\x7b?VIP?A:B\x7d?\x7bCOUNTER\x7d:C\x7d"
    let c : Conditional := ⟨"TIER=\x7b?VIP?A:B\x7d?\x7bCOUNTER\x7d:C".toList, 0⟩
    ∃ found, empty.withDefaults.checkSyntax pattern = .ok found ∧ found.isValid = true ∧
      found.warnings = [] ∧ Template.parse pattern = .ok ⟨pattern, [.conditional c], none⟩ ∧
      Findings.nestedConditional ∉ found.codes ∧ opensConditional c.body = true ∧
      c.branches = "?VIP?A:B\x7d?\x7bCOUNTER\x7d:C".toList ∧
      ∃ choice o operand, c.read.1 = some choice ∧
        choice.condition.comparison = some (o, operand ++ "\x7b") := by
  intro pattern c
  have hcheck : empty.withDefaults.checkSyntax pattern = .ok Findings.none := by decide +kernel
  have hparse : Template.parse pattern = .ok ⟨pattern, [.conditional c], none⟩ := by
    decide +kernel
  have hnested := checkSyntax_nested hcheck hparse
  obtain ⟨hbranches, -, hoperand⟩ :=
    hnested.2 rfl c "TIER=".toList "VIP?A:B\x7d?\x7bCOUNTER\x7d:C".toList
      (List.mem_singleton_self _) (by decide)
  exact ⟨_, hcheck, rfl, rfl, hparse, List.not_mem_nil, by decide, hbranches, hoperand⟩

end Registry

end SerialNumbers
