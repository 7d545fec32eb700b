/-
  SerialNumbers.Proofs.Pattern.Written

  Conditionals are read back as they are written.  A condition is written as a
  name, white space, an operator, white space and an operand, or as a name
  alone; a conditional is the condition, a question mark, and two branches
  around a colon.  `Written` is such a conditional with what makes it readable:
  the parts close their own braces, no question mark stands before the one that
  ends the condition, and no colon outside braces before the one that ends the
  first branch.

  Main statement: a pattern that is a written conditional is split into that one
  conditional, and its parts are what it was written from
  (`Written.parse_and_read`).
-/
import SerialNumbers.Proofs.Pattern.Segment
import SerialNumbers.Proofs.Text.Blank

namespace SerialNumbers

namespace Pattern

open Text

variable {body cs rest before after name : List Char} {c : Char} {o : Operator}

/-! ## Characters of a condition -/

/-- Letters, digits and the underscore stand in ASCII. -/
theorem toNat_of_isSubjectChar (h : isSubjectChar c = true) :
    48 ≤ c.toNat ∧ c.toNat ≤ 57 ∨ 65 ≤ c.toNat ∧ c.toNat ≤ 90 ∨
      97 ≤ c.toNat ∧ c.toNat ≤ 122 ∨ c.toNat = 95 := by
  have hkind : (((c.isUpper || c.isLower) || c.isDigit) || c == '_') = true := h
  simp only [Bool.or_eq_true, beq_iff_eq] at hkind
  rcases hkind with ((hupper | hlower) | hdigit) | rfl
  · exact .inr (.inl (of_decide_eq_true hupper))
  · obtain ⟨hleast, hmost⟩ := Bool.and_eq_true_iff.mp hlower
    exact .inr (.inr (.inl ⟨of_decide_eq_true hleast, of_decide_eq_true hmost⟩))
  · obtain ⟨hleast, hmost⟩ := Bool.and_eq_true_iff.mp hdigit
    exact .inl ⟨of_decide_eq_true hleast, of_decide_eq_true hmost⟩
  · exact .inr (.inr (.inr rfl))

/-- No letter, digit or underscore is white space. -/
theorem isBlank_of_isSubjectChar (h : isSubjectChar c = true) : isBlank c = false := by
  have hcode := toNat_of_isSubjectChar h
  exact isBlank_of_visible (by omega) (by omega)

theorem isSubjectChar_of_isBlank (h : isBlank c = true) : isSubjectChar c = false := by
  rw [← Bool.not_eq_true]
  intro hname
  rw [isBlank_of_isSubjectChar hname] at h
  cases h

/-- A character that a condition may hold before its operand: it is no brace and does not end
    the condition. -/
def isLeadChar (c : Char) : Bool :=
  isPlainChar c && c != '?'

theorem isLeadChar_of_isSubjectChar (h : isSubjectChar c = true) : isLeadChar c = true := by
  rw [isLeadChar, Bool.and_eq_true, isPlainChar_iff, bne_iff_ne]
  refine ⟨⟨?_, ?_⟩, ?_⟩ <;> rintro rfl <;> cases h

theorem isLeadChar_of_isBlank (h : isBlank c = true) : isLeadChar c = true := by
  rw [isLeadChar, Bool.and_eq_true, isPlainChar_iff, bne_iff_ne]
  refine ⟨⟨?_, ?_⟩, ?_⟩ <;> rintro rfl <;> cases h

theorem isLeadChar_of_mem_operator (o : Operator) : ∀ c ∈ o.text.toList, isLeadChar c = true :=
  List.all_eq_true.mp (by cases o <;> decide)

/-! ## Names -/

/-- A name is read up to the first character that cannot belong to it. -/
theorem subject?_append (hstart : (name.head?.map isSubjectStart).getD false = true)
    (hchars : ∀ c ∈ name, isSubjectChar c = true)
    (hrest : ∀ c ∈ rest.head?, isSubjectChar c = false) :
    subject? (name ++ rest) = some (String.ofList name, rest) := by
  have hstop : rest.takeWhile isSubjectChar = [] ∧ rest.dropWhile isSubjectChar = rest := by
    cases rest with
    | nil => exact ⟨rfl, rfl⟩
    | cons c rest =>
      have hc : isSubjectChar c = false := hrest c rfl
      simp [hc]
  have htake : (name ++ rest).takeWhile isSubjectChar = name := by
    rw [List.takeWhile_append_of_pos hchars, hstop.1, List.append_nil]
  have hdrop : (name ++ rest).dropWhile isSubjectChar = rest := by
    rw [List.dropWhile_append_of_pos hchars, hstop.2]
  cases name with
  | nil => cases hstart
  | cons d name =>
    have hkept : trimStart (d :: name ++ rest) = d :: name ++ rest :=
      trimStart_cons_of_not_blank (isBlank_of_isSubjectChar (hchars d List.mem_cons_self))
    unfold subject?
    dsimp only
    rw [hkept, htake, hdrop]
    exact if_pos hstart

/-! ## Operators -/

/-- No operator starts with a blank. -/
theorem trimStart_operator (o : Operator) (rest : List Char) :
    trimStart (o.text.toList ++ rest) = o.text.toList ++ rest := by
  cases o <;> exact trimStart_cons_of_not_blank rfl

theorem isSubjectChar_head_symbol (h : ¬(o = .isIn ∨ o = .notIn)) (rest : List Char) :
    ∀ c ∈ (o.text.toList ++ rest).head?, isSubjectChar c = false := by
  cases o with
  | isIn => exact absurd (.inl rfl) h
  | notIn => exact absurd (.inr rfl) h
  | equal | unequal | greater | less | atLeast | atMost =>
    rintro c ⟨⟩
    rfl

/-- A symbol is read where it stands, unless it is the first half of a longer one. -/
theorem operator?_of_symbol (hsymbol : ¬(o = .isIn ∨ o = .notIn))
    (hsign : o = .greater ∨ o = .less → rest.head? ≠ some '=')
    (h : trimStart cs = o.text.toList ++ rest) : operator? cs = some (o, rest) := by
  unfold operator?
  rw [h]
  cases o with
  | isIn => exact absurd (.inl rfl) hsymbol
  | notIn => exact absurd (.inr rfl) hsymbol
  | greater =>
    cases rest with
    | nil => rfl
    | cons d rest =>
      have hd : d ≠ '=' := fun hd => hsign (.inl rfl) (congrArg some hd)
      simp [Operator.text, hd]
  | less =>
    cases rest with
    | nil => rfl
    | cons d rest =>
      have hd : d ≠ '=' := fun hd => hsign (.inr rfl) (congrArg some hd)
      simp [Operator.text, hd]
  | equal | unequal | atLeast | atMost => rfl

/-- A word is read between blanks, and the blanks behind it are skipped. -/
theorem wordBetween?_append {word : List Char} (hbefore : ∀ c ∈ before, isBlank c = true)
    (hafter : ∀ c ∈ after, isBlank c = true) (hne : before ≠ [] ∧ after ≠ [])
    (hword : isBlank c = false) (rest : List Char) :
    wordBetween? (c :: word) (before ++ (c :: word ++ (after ++ rest))) =
      some (trimStart rest) := by
  have hkept : trimStart (before ++ (c :: word ++ (after ++ rest))) =
      c :: word ++ (after ++ rest) := by
    rw [trimStart_append hbefore]
    exact trimStart_cons_of_not_blank hword
  cases before with
  | nil => exact absurd rfl hne.1
  | cons b before =>
    have hb : isBlank b = true := hbefore b List.mem_cons_self
    have hprefix : (c :: word).isPrefixOf (c :: word ++ (after ++ rest)) = true :=
      List.isPrefixOf_iff_prefix.mpr (List.prefix_append _ _)
    rw [List.cons_append] at hkept ⊢
    unfold wordBetween?
    dsimp only
    rw [hkept, hb, hprefix, List.drop_left]
    cases after with
    | nil => exact absurd rfl hne.2
    | cons d after =>
      have hd : isBlank d = true := hafter d List.mem_cons_self
      rw [← trimStart_append hafter rest]
      exact (if_pos rfl).trans (if_pos hd)

theorem wordBetween?_eq_none {word : List Char} (h : word.isPrefixOf (trimStart cs) = false) :
    wordBetween? word cs = none := by
  cases cs with
  | nil => rfl
  | cons b cs =>
    unfold wordBetween?
    dsimp only
    rw [h, Bool.and_false]
    rfl

/-- A word is read between blanks. -/
theorem operator?_of_word (hword : o = .isIn ∨ o = .notIn)
    (hbefore : ∀ c ∈ before, isBlank c = true) (hafter : ∀ c ∈ after, isBlank c = true)
    (hne : before ≠ [] ∧ after ≠ []) (rest : List Char) :
    operator? (before ++ (o.text.toList ++ (after ++ rest))) = some (o, trimStart rest) := by
  have hkept : trimStart (before ++ (o.text.toList ++ (after ++ rest))) =
      o.text.toList ++ (after ++ rest) :=
    (trimStart_append hbefore _).trans (trimStart_operator o _)
  unfold operator?
  rw [hkept]
  rcases hword with rfl | rfl
  · -- The longer word is looked for first, and is not there.
    have hnot : wordBetween? "not_in".toList
        (before ++ (Operator.isIn.text.toList ++ (after ++ rest))) = none :=
      wordBetween?_eq_none (by rw [hkept]; rfl)
    rw [hnot]
    exact congrArg (Option.map _) (wordBetween?_append hbefore hafter hne rfl rest)
  · have hfound : wordBetween? "not_in".toList
        (before ++ (Operator.notIn.text.toList ++ (after ++ rest))) = some (trimStart rest) :=
      wordBetween?_append hbefore hafter hne rfl rest
    rw [hfound]
    rfl

/-! ## Comparisons -/

/-- An operator and an operand with the white space around the operator, as they stand behind
    the name in a condition.  A word has white space on both sides.  The operand is a trimmed
    text on one line; it closes its own braces, holds no question mark, and does not start with
    what would be taken for a part of the operator. -/
structure Comparison where
  operator : Operator
  before : List Char
  after : List Char
  operand : List Char
  blank_before : ∀ c ∈ before, isBlank c = true
  blank_after : ∀ c ∈ after, isBlank c = true
  word : operator = .isIn ∨ operator = .notIn → before ≠ [] ∧ after ≠ []
  nonempty : operand ≠ []
  trimmed : trim operand = operand
  question : '?' ∉ operand
  line : '\n' ∉ operand
  balanced : isBalanced operand = true
  sign : operator = .greater ∨ operator = .less → operand.head? ≠ some '='

namespace Comparison

variable (w : Comparison)

/-- The operator and the operand as they are written. -/
def text : List Char :=
  w.before ++ (w.operator.text.toList ++ (w.after ++ w.operand))

/-- What stands before the operand neither holds a brace nor ends the condition. -/
theorem text_eq_append : ∃ lead, w.text = lead ++ w.operand ∧ ∀ c ∈ lead, isLeadChar c = true := by
  refine ⟨w.before ++ (w.operator.text.toList ++ w.after), ?_, ?_⟩
  · simp [text]
  · intro c hc
    rcases List.mem_append.mp hc with hc | hc
    · exact isLeadChar_of_isBlank (w.blank_before c hc)
    · rcases List.mem_append.mp hc with hc | hc
      · exact isLeadChar_of_mem_operator w.operator c hc
      · exact isLeadChar_of_isBlank (w.blank_after c hc)

/-- No name goes on into the operator. -/
theorem isSubjectChar_head_text : ∀ c ∈ w.text.head?, isSubjectChar c = false := by
  intro c hc
  cases hbefore : w.before with
  | cons b before =>
    have hb : isBlank b = true := w.blank_before b (hbefore ▸ List.mem_cons_self)
    have hhead : w.text.head? = some b := by simp [text, hbefore]
    rw [hhead] at hc
    cases hc
    exact isSubjectChar_of_isBlank hb
  | nil =>
    have hsymbol : ¬(w.operator = .isIn ∨ w.operator = .notIn) :=
      fun hword => (w.word hword).1 hbefore
    rw [text, hbefore] at hc
    exact isSubjectChar_head_symbol hsymbol _ c hc

/-- The operator is read back, and what follows it is the operand but for white space. -/
theorem operator?_text : ∃ rest, operator? w.text = some (w.operator, rest) ∧
    trim rest = w.operand := by
  by_cases hword : w.operator = .isIn ∨ w.operator = .notIn
  · refine ⟨trimStart w.operand, ?_, ?_⟩
    · exact operator?_of_word hword w.blank_before w.blank_after (w.word hword) w.operand
    · rw [trimStart_of_trim w.trimmed, w.trimmed]
  · refine ⟨w.after ++ w.operand, ?_, ?_⟩
    · refine operator?_of_symbol hword (fun h => ?_) ?_
      · -- White space keeps the operand apart from the operator, or there is none.
        cases hafter : w.after with
        | nil => exact w.sign h
        | cons d after =>
          have hblank : isBlank d = true := w.blank_after d (hafter ▸ List.mem_cons_self)
          rintro ⟨⟩
          cases hblank
      · exact (trimStart_append w.blank_before _).trans (trimStart_operator w.operator _)
    · exact (trim_append w.blank_after w.operand).trans w.trimmed

end Comparison

/-! ## Braces -/

/-- A text that closes `depth` braces stands before the one that closes the next. -/
theorem splitClose_append {depth : Nat} (h : balancedFrom depth body = true) (rest : List Char) :
    splitClose depth (body ++ '\x7d' :: rest) = some (body, rest) := by
  induction body generalizing depth with
  | nil =>
    rw [beq_iff_eq.mp h]
    rfl
  | cons c body ih =>
    obtain rfl | rfl | hplain := brace_or_plain c
    · rw [balancedFrom_open] at h
      simp [splitClose, ih h]
    · cases depth with
      | zero => cases h
      | succ depth => simp [splitClose, ih h]
    · obtain ⟨hopen, hclose⟩ := isPlainChar_iff.mp hplain
      rw [balancedFrom_plain hplain] at h
      simp [splitClose, hopen, hclose, ih h]

/-- Branches are split at a colon where the text before it has closed its braces and holds no
    such colon itself. -/
theorem splitBranches_append {depth : Nat} {first : List Char}
    (h : balancedFrom depth first = true)
    (hcolon : ∀ n (h : n < first.length), first[n] = ':' →
      balancedFrom depth (first.take n) = false) (second : List Char) :
    splitBranches depth (first ++ ':' :: second) = (first, second) := by
  induction first generalizing depth with
  | nil =>
    rw [beq_iff_eq.mp h]
    rfl
  | cons c first ih =>
    -- The rest is split as it is from the depth behind the first character.
    have hrest {inner : Nat} (hinner : ∀ cs, balancedFrom depth (c :: cs) = balancedFrom inner cs) :
        splitBranches inner (first ++ ':' :: second) = (first, second) := by
      refine ih (hinner first ▸ h) fun n hn hc => ?_
      rw [← hinner]
      exact hcolon (n + 1) (Nat.succ_lt_succ hn) hc
    obtain rfl | rfl | hplain := brace_or_plain c
    · have hopen := hrest (balancedFrom_open depth)
      rw [Int.natCast_succ] at hopen
      simp [splitBranches, hopen]
    · cases depth with
      | zero => cases h
      | succ depth => simp [splitBranches, hrest (balancedFrom_close depth)]
    · obtain ⟨hopen, hclose⟩ := isPlainChar_iff.mp hplain
      have houter : ¬(c = ':' ∧ depth = 0) := by
        rintro ⟨rfl, rfl⟩
        have hfirst := hcolon 0 (Nat.succ_pos _) rfl
        cases hfirst
      simp [splitBranches, hopen, hclose, houter, hrest (balancedFrom_plain hplain depth)]

/-! ## Conditions -/

/-- A conditional as it may be written: a name, perhaps a comparison, and two branches that
    close their own braces and open no conditional, the first of them without a colon outside
    its braces. -/
structure Written where
  subject : List Char
  comparison : Option Comparison
  whenTrue : List Char
  whenFalse : List Char
  subject_start : (subject.head?.map isSubjectStart).getD false = true
  subject_chars : ∀ c ∈ subject, isSubjectChar c = true
  balanced_true : isBalanced whenTrue = true
  balanced_false : isBalanced whenFalse = true
  plain_true : opensConditional whenTrue = false
  plain_false : opensConditional whenFalse = false
  colon : ∀ n (h : n < whenTrue.length), whenTrue[n] = ':' → isBalanced (whenTrue.take n) = false

namespace Written

variable (w : Written)

/-- The condition as it is written. -/
def question : List Char :=
  w.subject ++ (w.comparison.map Comparison.text).getD []

/-- What the condition asks. -/
def condition : Condition :=
  ⟨String.ofList w.subject,
    w.comparison.map fun c => (c.operator, String.ofList c.operand)⟩

/-- What the conditional says. -/
def choice : Choice :=
  ⟨w.question, w.condition, w.whenTrue, w.whenFalse⟩

/-- The conditional, at the start of a pattern. -/
def conditional : Conditional :=
  ⟨w.question ++ '?' :: (w.whenTrue ++ ':' :: w.whenFalse), 0⟩

/-- The pattern that is the conditional alone. -/
def pattern : String :=
  String.ofList w.conditional.raw

theorem question_eq_append : ∃ lead operand, w.question = lead ++ operand ∧
    (∀ c ∈ lead, isLeadChar c = true) ∧ '?' ∉ operand ∧ isBalanced operand = true := by
  have hsubject : ∀ c ∈ w.subject, isLeadChar c = true :=
    fun c hc => isLeadChar_of_isSubjectChar (w.subject_chars c hc)
  unfold question
  cases w.comparison with
  | none => exact ⟨w.subject, [], rfl, hsubject, List.not_mem_nil, rfl⟩
  | some comparison =>
    obtain ⟨lead, htext, hlead⟩ := comparison.text_eq_append
    refine ⟨w.subject ++ lead, comparison.operand, ?_, ?_, comparison.question,
      comparison.balanced⟩
    · simp [htext]
    · exact List.forall_mem_append.mpr ⟨hsubject, hlead⟩

theorem question_mark : '?' ∉ w.question := by
  obtain ⟨lead, operand, heq, hlead, hoperand, -⟩ := w.question_eq_append
  rw [heq, List.mem_append, not_or]
  refine ⟨fun hmark => ?_, hoperand⟩
  have hlead := hlead '?' hmark
  cases hlead

theorem isBalanced_question : isBalanced w.question = true := by
  obtain ⟨lead, operand, heq, hlead, -, hoperand⟩ := w.question_eq_append
  have hplain : ∀ c ∈ lead, isPlainChar c = true :=
    fun c hc => (Bool.and_eq_true_iff.mp (hlead c hc)).1
  rw [heq, isBalanced, balancedFrom_append_plain hplain]
  exact hoperand

theorem lacksOperand_condition : w.condition.lacksOperand = false := by
  unfold condition Condition.lacksOperand
  cases w.comparison with
  | none => rfl
  | some comparison =>
    have hoperand : (String.ofList comparison.operand).isEmpty = false := by
      simp [comparison.nonempty]
    dsimp only [Option.map]
    cases comparison.operator with
    | equal | unequal => rfl
    | greater | less | atLeast | atMost | isIn | notIn => exact hoperand

theorem subject_eq_cons : ∃ c rest, w.subject = c :: rest ∧ isBlank c = false := by
  have hstart := w.subject_start
  cases hsubject : w.subject with
  | nil =>
    rw [hsubject] at hstart
    cases hstart
  | cons c rest =>
    have hc : c ∈ w.subject := hsubject ▸ List.mem_cons_self
    exact ⟨c, rest, rfl, isBlank_of_isSubjectChar (w.subject_chars c hc)⟩

/-- A condition as it is written is trimmed. -/
theorem trim_question : trim w.question = w.question := by
  have hstart : trimStart w.question = w.question := by
    obtain ⟨c, rest, hsubject, hc⟩ := w.subject_eq_cons
    rw [question, hsubject]
    exact trimStart_cons_of_not_blank hc
  rw [trim, hstart, question]
  cases w.comparison with
  | none =>
    show trimEnd (w.subject ++ []) = w.subject ++ []
    rw [List.append_nil]
    exact trimEnd_of_forall fun c hc => isBlank_of_isSubjectChar (w.subject_chars c hc)
  | some comparison =>
    obtain ⟨lead, htext, -⟩ := comparison.text_eq_append
    have hoperand : trimEnd comparison.operand = comparison.operand :=
      trimEnd_of_trim comparison.trimmed
    have hnonempty : trimEnd comparison.operand ≠ [] := by
      rw [hoperand]
      exact comparison.nonempty
    show trimEnd (w.subject ++ comparison.text) = w.subject ++ comparison.text
    rw [htext, ← List.append_assoc, trimEnd_append hnonempty, hoperand]

/-- The condition is read back. -/
theorem read?_question : Condition.read? w.question = some w.condition := by
  unfold question condition
  cases w.comparison with
  | none =>
    have hsubject : subject? (w.subject ++ []) = some (String.ofList w.subject, []) :=
      subject?_append w.subject_start w.subject_chars (by simp)
    show Condition.read? (w.subject ++ []) = _
    unfold Condition.read?
    rw [hsubject]
    rfl
  | some comparison =>
    have hsubject := subject?_append w.subject_start w.subject_chars
      comparison.isSubjectChar_head_text
    obtain ⟨rest, hoperator, hrest⟩ := comparison.operator?_text
    show Condition.read? (w.subject ++ comparison.text) = _
    unfold Condition.read?
    rw [hsubject]
    simp [hoperator, hrest, comparison.line]

/-! ## Conditionals -/

theorem isBalanced_body : isBalanced w.conditional.body = true := by
  show balancedFrom 0 (w.question ++ '?' :: (w.whenTrue ++ ':' :: w.whenFalse)) = true
  rw [balancedFrom_append w.isBalanced_question 0, balancedFrom_plain rfl,
    balancedFrom_append w.balanced_true 0, balancedFrom_plain rfl]
  exact w.balanced_false

/-- The pattern is split into the one conditional. -/
theorem segments_raw : segments w.conditional.raw = ([.conditional w.conditional], none) := by
  have hclose : splitClose 0 (w.conditional.body ++ ['\x7d']) = some (w.conditional.body, []) :=
    splitClose_append w.isBalanced_body []
  show segmentsFrom 0 [] ('\x7b' :: '?' :: (w.conditional.body ++ ['\x7d'])) = _
  unfold segmentsFrom
  split
  · split
    · rename_i hnone
      cases hclose.symm.trans hnone
    · rename_i body tail hfound
      cases hclose.symm.trans hfound
      simp [segmentsFrom, literalOf, conditional]
  · rename_i hopen
    exact absurd rfl hopen

theorem splitBranches_branches :
    splitBranches 0 (w.whenTrue ++ ':' :: w.whenFalse) = (w.whenTrue, w.whenFalse) :=
  splitBranches_append w.balanced_true w.colon w.whenFalse

/-- Nothing is wrong with the branches. -/
theorem errors_branchFindings :
    (branchFindings w.conditional w.whenTrue w.whenFalse).errors = [] := by
  unfold branchFindings
  rw [w.plain_true, w.plain_false]
  dsimp only
  split <;> rfl

/-- The conditional is read back, and nothing is wrong with it. -/
theorem read_conditional : ∃ found, w.conditional.read = (some w.choice, found) ∧
    found.errors = [] := by
  have hmark : ∀ c ∈ w.question, (c != '?') = true := by
    intro c hc
    rw [bne_iff_ne]
    rintro rfl
    exact w.question_mark hc
  have htake : w.conditional.body.takeWhile (· != '?') = w.question :=
    (List.takeWhile_append_of_pos hmark).trans (List.append_nil _)
  have hdrop : w.conditional.body.dropWhile (· != '?') =
      '?' :: (w.whenTrue ++ ':' :: w.whenFalse) :=
    List.dropWhile_append_of_pos hmark
  refine ⟨branchFindings w.conditional w.whenTrue w.whenFalse, ?_, w.errors_branchFindings⟩
  unfold Conditional.read
  rw [hdrop]
  dsimp only
  rw [htake, w.splitBranches_branches, w.read?_question, w.trim_question]
  dsimp only
  rw [w.lacksOperand_condition]
  rfl

/-- A pattern that is a written conditional is split into that conditional alone, nothing being
    left open, and the conditional is read as what it was written from without an error. -/
theorem parse_and_read (h : w.pattern.length ≤ maxLength) :
    Template.parse w.pattern = .ok ⟨w.pattern, [.conditional w.conditional], none⟩ ∧
      ∃ found, w.conditional.read = (some w.choice, found) ∧ found.errors = [] := by
  refine ⟨?_, w.read_conditional⟩
  have hsegments : segments w.pattern.toList = ([.conditional w.conditional], none) := by
    rw [pattern, String.toList_ofList]
    exact w.segments_raw
  have hnonempty : ¬w.pattern.isEmpty = true := by
    simp [pattern, Conditional.raw]
  unfold Template.parse
  rw [if_neg hnonempty, if_neg (Nat.not_lt.mpr h), hsegments]

/-- Whether the tier is on a list, with white space around a word and a colon inside the
    braces of the first branch. -/
def tiers : Written where
  subject := "TIER".toList
  comparison := some
    { operator := .isIn
      before := [' ']
      after := [' ', ' ']
      operand := "VIP, GOLD".toList
      blank_before := List.all_eq_true.mp rfl
      blank_after := List.all_eq_true.mp rfl
      word := by decide
      nonempty := by decide
      trimmed := by decide
      question := by decide
      line := by decide
      balanced := by decide
      sign := by decide }
  whenTrue := "V-\x7bCOUNTER:4\x7d".toList
  whenFalse := "\x7bCOUNTER:4\x7d:".toList
  subject_start := by decide
  subject_chars := List.all_eq_true.mp rfl
  balanced_true := by decide
  balanced_false := by decide
  plain_true := by decide
  plain_false := by decide
  colon := by decide

theorem parse_and_read_tiers :
    tiers.pattern = "\x7b?TIER in  VIP, GOLD?V-\x7bCOUNTER:4\x7d:\x7bCOUNTER:4\x7d:\x7d" ∧
      tiers.pattern.length ≤ maxLength ∧
      Template.parse tiers.pattern = .ok ⟨tiers.pattern, [.conditional tiers.conditional], none⟩ ∧
      ∃ found, tiers.conditional.read =
        (some ⟨"TIER in  VIP, GOLD".toList, ⟨"TIER", some (.isIn, "VIP, GOLD")⟩,
          "V-\x7bCOUNTER:4\x7d".toList, "\x7bCOUNTER:4\x7d:".toList⟩, found) ∧ found.errors = [] :=
  ⟨by decide, by decide, tiers.parse_and_read (by decide)⟩

end Written

end Pattern

end SerialNumbers
