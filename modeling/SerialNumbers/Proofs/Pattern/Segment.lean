/-
  SerialNumbers.Proofs.Pattern.Segment

  Parts of a pattern.  Every token of literal text and of a branch is a token of
  the pattern (`Template.mem_tokenList`), since a token is found whatever stands
  around it; and after a text that closes its own braces, reading goes on as if it
  started there (`Pattern.pieces_append`).
-/
import SerialNumbers.Proofs.Pattern.Soundness

namespace SerialNumbers

open Pattern

namespace Pattern

variable {cs xs ys rest : List Char} {token : Token}

/-! ## Joined texts -/

/-- A character is a brace of one kind or the other, or plain. -/
theorem brace_or_plain (c : Char) : c = '\x7b' ∨ c = '\x7d' ∨ isPlainChar c = true := by
  by_cases hopen : c = '\x7b'
  · exact .inl hopen
  · by_cases hclose : c = '\x7d'
    · exact .inr (.inl hclose)
    · exact .inr (.inr (isPlainChar_iff.mpr ⟨hopen, hclose⟩))

/-- After a text that closes `closed` braces, as many are open as it does not close. -/
theorem balancedFrom_append {closed : Nat} (h : balancedFrom closed xs = true) (depth : Nat)
    (ys : List Char) : balancedFrom (closed + depth) (xs ++ ys) = balancedFrom depth ys := by
  induction xs generalizing closed with
  | nil =>
    rw [beq_iff_eq.mp h, Nat.zero_add]
    rfl
  | cons c xs ih =>
    rw [List.cons_append]
    obtain rfl | rfl | hplain := brace_or_plain c
    · rw [balancedFrom_open] at h ⊢
      rw [Nat.add_right_comm]
      exact ih h
    · cases closed with
      | zero => cases h
      | succ closed =>
        rw [Nat.add_right_comm, balancedFrom_close]
        exact ih h
    · rw [balancedFrom_plain hplain] at h ⊢
      exact ih h

/-- A token is found whatever follows it. -/
theorem tokenAt?_append {t : Token} (h : tokenAt? cs = some (t, rest)) (more : List Char) :
    tokenAt? (cs ++ more) = some (t, rest ++ more) := by
  cases cs with
  | nil => cases h
  | cons c cs =>
    by_cases hc : c = '\x7b'
    · subst hc
      obtain ⟨inside, hplain, rfl⟩ := plain_of_dropWhile (dropWhile_of_tokenAt? h)
      rw [tokenAt?_closed hplain] at h
      obtain ⟨t', htoken, heq⟩ := Option.map_eq_some_iff.mp h
      cases heq
      rw [List.cons_append, List.append_assoc, List.cons_append, tokenAt?_closed hplain, htoken]
      rfl
    · rw [tokenAt?_of_ne hc] at h
      cases h

/-- Where a text closes its braces, what follows it makes no token of it. -/
theorem tokenAt?_append_of_none {depth : Nat} {c : Char}
    (hbalanced : balancedFrom depth (c :: cs) = true) (h : tokenAt? (c :: cs) = none)
    (more : List Char) : tokenAt? (c :: cs ++ more) = none := by
  rw [List.cons_append]
  by_cases hc : c = '\x7b'
  · subst hc
    rw [balancedFrom_open] at hbalanced
    cases htoken : tokenAt? ('\x7b' :: (cs ++ more)) with
    | none => rfl
    | some found =>
      -- The token would end at the first brace of the text, and be one without what follows.
      have hclose := dropWhile_of_tokenAt? htoken
      have hfirst := dropWhile_ne_nil_of_balanced hbalanced
      rw [List.dropWhile_append, if_neg (by rwa [List.isEmpty_iff])] at hclose
      cases hbrace : cs.dropWhile isPlainChar with
      | nil => exact absurd hbrace hfirst
      | cons d tail =>
        rw [hbrace, List.cons_append] at hclose
        rw [(List.cons.inj hclose).1] at hbrace
        obtain ⟨inside, hplain, rfl⟩ := plain_of_dropWhile hbrace
        rw [tokenAt?_closed hplain] at h
        rw [List.append_assoc, List.cons_append, tokenAt?_closed hplain,
          Option.map_eq_none_iff.mp h] at htoken
        cases htoken
  · exact tokenAt?_of_ne hc _

/-- After a text whose braces are all closed, the pieces are those of what follows. -/
theorem pieces_append {depth : Nat} (h : balancedFrom depth cs = true) (more : List Char) :
    pieces (cs ++ more) = pieces cs ++ pieces more := by
  fun_induction pieces cs generalizing depth with
  | case1 => rfl
  | case2 c rest t tail htoken ih =>
    have htail : balancedFrom depth tail = true := by
      have htext := text_of_tokenAt? htoken
      unfold Token.text at htext
      rw [List.cons_append, List.cons_append, List.append_assoc] at htext
      rw [← htext, balancedFrom_open, balancedFrom_append_plain (plain_of_tokenAt? htoken),
        List.singleton_append, balancedFrom_close] at h
      exact h
    have hjoined := tokenAt?_append htoken more
    rw [List.cons_append] at hjoined ⊢
    rw [pieces]
    split
    · rename_i t' tail' heq
      rw [heq] at hjoined
      cases hjoined
      rw [ih htail, List.cons_append]
    · rename_i heq
      rw [heq] at hjoined
      cases hjoined
  | case3 c rest htoken ih =>
    have hnone := tokenAt?_append_of_none h htoken more
    have hrest : ∃ depth, balancedFrom depth rest = true := by
      obtain rfl | rfl | hplain := brace_or_plain c
      · exact ⟨_, (balancedFrom_open depth rest) ▸ h⟩
      · cases depth with
        | zero => cases h
        | succ depth => exact ⟨depth, h⟩
      · exact ⟨depth, (balancedFrom_plain hplain depth rest) ▸ h⟩
    obtain ⟨depth, hrest⟩ := hrest
    rw [List.cons_append] at hnone ⊢
    rw [pieces]
    split
    · rename_i t' tail' heq
      rw [heq] at hnone
      cases hnone
    · rw [ih hrest, List.cons_append]

theorem mem_tokens_cons (h : token ∈ tokens cs) (c : Char) : token ∈ tokens (c :: cs) := by
  rw [tokens_cons]
  split
  · rename_i first tail htoken
    -- The characters of a token before its end hold no other.
    have htext := text_of_tokenAt? htoken
    unfold Token.text at htext
    rw [List.cons_append, List.cons_append, List.append_assoc] at htext
    have hne : ∀ d ∈ first.body.toList ++ ['\x7d'], d ≠ '\x7b' :=
      List.forall_mem_append.mpr
        ⟨fun d hd => (isPlainChar_iff.mp (plain_of_tokenAt? htoken d hd)).1,
          List.forall_mem_singleton.mpr (by decide)⟩
    rw [← (List.cons.inj htext).2, ← List.append_assoc, tokens_append_of_ne hne] at h
    exact List.mem_cons_of_mem _ h
  · exact h

theorem mem_tokens_append_left (h : token ∈ tokens ys) (xs : List Char) :
    token ∈ tokens (xs ++ ys) := by
  induction xs with
  | nil => exact h
  | cons c xs ih => exact mem_tokens_cons ih c

theorem mem_tokens_append_right (h : token ∈ tokens xs) (ys : List Char) :
    token ∈ tokens (xs ++ ys) := by
  fun_induction pieces xs with
  | case1 =>
    rw [tokens_nil] at h
    cases h
  | case2 c rest first tail htoken ih =>
    rw [tokens_cons, htoken] at h
    have hjoined := tokenAt?_append htoken ys
    rw [List.cons_append] at hjoined ⊢
    rw [tokens_cons, hjoined]
    rcases List.mem_cons.mp h with rfl | h
    · exact List.mem_cons_self
    · exact List.mem_cons_of_mem _ (ih h)
  | case3 c rest htoken ih =>
    rw [tokens_cons, htoken] at h
    exact mem_tokens_cons (ih h) c

/-- A token of a text is a token of every text around it. -/
theorem mem_tokens_within (h : token ∈ tokens xs) (hpart : xs <:+: ys) : token ∈ tokens ys := by
  obtain ⟨before, after, rfl⟩ := hpart
  exact mem_tokens_append_right (mem_tokens_append_left h before) after

/-! ## Conditionals -/

/-- The body of a conditional closes its own braces. -/
theorem balancedFrom_of_splitClose {depth : Nat} {body : List Char}
    (h : splitClose depth cs = some (body, rest)) : balancedFrom depth body = true := by
  induction cs generalizing depth body rest with
  | nil => cases h
  | cons c cs ih =>
    unfold splitClose at h
    obtain rfl | rfl | hplain := brace_or_plain c
    · obtain ⟨⟨inner, tail⟩, hinner, heq⟩ := Option.map_eq_some_iff.mp h
      cases heq
      rw [balancedFrom_open]
      exact ih hinner
    · cases depth with
      | zero =>
        cases h
        rfl
      | succ depth =>
        obtain ⟨⟨inner, tail⟩, hinner, heq⟩ := Option.map_eq_some_iff.mp h
        cases heq
        rw [balancedFrom_close]
        exact ih hinner
    · obtain ⟨hopen, hclose⟩ := isPlainChar_iff.mp hplain
      rw [if_neg (by rwa [beq_iff_eq]), if_neg (by rwa [beq_iff_eq])] at h
      obtain ⟨⟨inner, tail⟩, hinner, heq⟩ := Option.map_eq_some_iff.mp h
      cases heq
      rw [balancedFrom_plain hplain]
      exact ih hinner

theorem not_conditional_mem_literalOf (text : List Char) (c : Conditional) :
    .conditional c ∉ literalOf text := by
  unfold literalOf
  split
  · exact List.not_mem_nil
  · rw [List.mem_singleton]
    rintro ⟨⟩

theorem isBalanced_body_of_mem {position : Nat} {before : List Char} {c : Conditional}
    (h : .conditional c ∈ (segmentsFrom position before cs).1) : isBalanced c.body = true := by
  fun_induction segmentsFrom position before cs with
  | case1 => exact absurd h (not_conditional_mem_literalOf _ _)
  | case2 => exact absurd h (not_conditional_mem_literalOf _ _)
  | case3 position before d rest hopen body tail hclose more unclosed heq ih =>
    rw [List.append_cons, List.mem_append, List.mem_append, List.mem_singleton] at h
    rcases h with (h | h) | h
    · exact absurd h (not_conditional_mem_literalOf _ _)
    · cases h
      exact balancedFrom_of_splitClose hclose
    · rw [heq] at ih
      exact ih h
  | case4 position before d rest hopen ih => exact ih h

/-- The two branches are what stands on the two sides of a colon, or there is no colon. -/
theorem text_of_splitBranches {depth : Int} {first second : List Char}
    (h : splitBranches depth cs = (first, second)) :
    first ++ ':' :: second = cs ∨ first = cs ∧ second = [] := by
  induction cs generalizing depth first second with
  | nil =>
    cases h
    exact .inr ⟨rfl, rfl⟩
  | cons c cs ih =>
    unfold splitBranches at h
    split at h
    · rename_i hcolon
      cases h
      rw [(Bool.and_eq_true_iff.mp hcolon).1 |> beq_iff_eq.mp]
      exact .inl rfl
    · dsimp only at h
      cases h
      rcases ih rfl with hcs | ⟨hcs, hsecond⟩
      · exact .inl (by rw [List.cons_append, hcs])
      · exact .inr ⟨by rw [hcs], hsecond⟩

namespace Conditional

variable {c : Conditional} {choice : Choice}

/-- What stands before the first question mark, the condition and blanks around it. -/
def asked (c : Conditional) : List Char :=
  c.body.takeWhile (· != '?')

/-- A conditional that is read has its condition before the first question mark, and its branches
    behind it. -/
theorem parts_of_read (h : c.read.1 = some choice) : ∃ rest,
    c.body = c.asked ++ '?' :: rest ∧ Condition.read? c.asked = some choice.condition ∧
      splitBranches 0 rest = (choice.whenTrue, choice.whenFalse) := by
  unfold read at h
  have hbody := List.takeWhile_append_dropWhile (p := (· != '?')) (l := c.body)
  cases hbranches : c.body.dropWhile (· != '?') with
  | nil =>
    rw [hbranches] at h
    cases h
  | cons mark rest =>
    have hmark : mark = '?' := by
      have hstop := List.head?_dropWhile_not (· != '?') c.body
      rw [hbranches] at hstop
      simpa using hstop
    rw [hbranches] at h hbody
    subst hmark
    refine ⟨rest, hbody.symm, ?_⟩
    dsimp only at h
    split at h
    · cases h
    · rename_i hasked
      cases h
      exact ⟨hasked, rfl⟩

/-- The branches are parts of the body. -/
theorem branch_infix (h : c.read.1 = some choice) {text : List Char}
    (htext : text ∈ [choice.whenTrue, choice.whenFalse]) : text <:+: c.body := by
  obtain ⟨rest, hbody, -, hsplit⟩ := parts_of_read h
  have hrest : rest <:+: c.body := by
    rw [hbody]
    exact ((List.suffix_cons _ _).trans (List.suffix_append _ _)).isInfix
  refine List.IsInfix.trans ?_ hrest
  rw [List.mem_cons, List.mem_singleton] at htext
  rcases text_of_splitBranches hsplit with rfl | ⟨htrue, hfalse⟩
  · rcases htext with rfl | rfl
    · exact (List.prefix_append _ _).isInfix
    · exact ((List.suffix_cons _ _).trans (List.suffix_append _ _)).isInfix
  · rcases htext with rfl | rfl
    · exact htrue ▸ List.infix_rfl
    · exact hfalse ▸ List.nil_infix

/-- The tokens of a conditional are those of its body. -/
theorem tokens_raw (hbody : isBalanced c.body = true) : tokens c.raw = tokens c.body := by
  have hmark : tokenAt? ('\x7b' :: ('?' :: c.body ++ ['\x7d'])) = none := rfl
  have hquestion : ∀ d ∈ ['?'], d ≠ '\x7b' := List.forall_mem_singleton.mpr (by decide)
  have hclose : tokens ['\x7d'] = [] := by
    rw [tokens_cons]
    exact tokens_nil
  show tokens ('\x7b' :: ('?' :: c.body ++ ['\x7d'])) = _
  rw [tokens_cons, hmark]
  show tokens (['?'] ++ (c.body ++ ['\x7d'])) = _
  rw [tokens_append_of_ne hquestion, tokens_append hbody, hclose, List.append_nil]

theorem isBalanced_raw (hbody : isBalanced c.body = true) : isBalanced c.raw = true := by
  show balancedFrom 0 ('\x7b' :: '?' :: (c.body ++ ['\x7d'])) = true
  rw [balancedFrom_open, balancedFrom_plain rfl]
  exact (balancedFrom_append hbody 1 ['\x7d']).trans rfl

end Conditional

end Pattern

/-! ## Templates -/

namespace Template

variable {t : Template} {pattern : String}

/-- The segments of a pattern are the whole pattern. -/
theorem flatMap_text_of_parse (hparse : Template.parse pattern = .ok t) :
    t.segments.flatMap Segment.text = t.text := by
  rw [parse_eq_ok hparse]
  exact flatMap_text_segmentsFrom 0 [] pattern.toList

/-- Every conditional of a pattern closes the braces of its body. -/
theorem isBalanced_body_of_parse (hparse : Template.parse pattern = .ok t) {c : Conditional}
    (hc : .conditional c ∈ t.segments) : isBalanced c.body = true := by
  rw [parse_eq_ok hparse] at hc
  exact isBalanced_body_of_mem hc

/-- A text in which tokens are read is a part of its segment. -/
theorem infix_of_mem_tokenTexts {segment : Segment} {text : List Char}
    (h : text ∈ tokenTexts segment) : text <:+: segment.text := by
  cases segment with
  | literal text' =>
    rw [List.mem_singleton.mp h]
    exact List.infix_rfl
  | conditional c =>
    unfold tokenTexts at h
    dsimp only at h
    cases hchoice : c.read.1 with
    | none =>
      rw [hchoice] at h
      cases h
    | some choice =>
      rw [hchoice] at h
      exact (Conditional.branch_infix hchoice h).trans ⟨['\x7b', '?'], ['\x7d'], rfl⟩

/-- The tokens of literal text and of branches are tokens of the pattern. -/
theorem mem_tokenList (hparse : Template.parse pattern = .ok t) {text : List Char}
    (htext : text ∈ t.segments.flatMap tokenTexts) {token : Token}
    (htoken : token ∈ tokens text) : token ∈ t.tokenList := by
  obtain ⟨segment, hsegment, htext⟩ := List.mem_flatMap.mp htext
  have hpart : segment.text <:+: t.text := by
    obtain ⟨before, after, hsplit⟩ := List.append_of_mem hsegment
    refine ⟨before.flatMap Segment.text, after.flatMap Segment.text, ?_⟩
    rw [← flatMap_text_of_parse hparse, hsplit, List.flatMap_append, List.flatMap_cons,
      List.append_assoc]
  exact mem_tokens_within htoken ((infix_of_mem_tokenTexts htext).trans hpart)

end Template

end SerialNumbers
