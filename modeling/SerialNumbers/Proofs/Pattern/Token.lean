/-
  SerialNumbers.Proofs.Pattern.Token

  Two readings of one text.  Evaluation scans a text for tokens, the check of a
  pattern looks at what stands inside its innermost braces.  The two agree: the
  tokens are those insides that read as one (`tokens_eq_filterMap`).  Where all
  braces of a text are closed, what follows it is read by itself
  (`braceBodies_append`, `tokens_append`).
-/
import SerialNumbers.Pattern.Token
import Mathlib.Data.List.TakeWhile

namespace SerialNumbers.Pattern

variable {cs inside rest tail : List Char} {c : Char}

/-! ## Plain characters -/

theorem isPlainChar_iff : isPlainChar c = true ↔ c ≠ '\x7b' ∧ c ≠ '\x7d' := by
  unfold isPlainChar
  rw [Bool.and_eq_true, bne_iff_ne, bne_iff_ne]

theorem isPlainChar_of_isNameChar (h : isNameChar c = true) : isPlainChar c = true := by
  rw [isPlainChar_iff]
  constructor
  · rintro rfl
    cases h
  · rintro rfl
    cases h

theorem dropWhile_plain (h : ∀ c ∈ inside, isPlainChar c = true) (rest : List Char) :
    (inside ++ '\x7d' :: rest).dropWhile isPlainChar = '\x7d' :: rest :=
  List.dropWhile_append_of_pos h

theorem takeWhile_plain (h : ∀ c ∈ inside, isPlainChar c = true) (rest : List Char) :
    (inside ++ '\x7d' :: rest).takeWhile isPlainChar = inside :=
  (List.takeWhile_append_of_pos h).trans (List.append_nil inside)

/-- Where the brace that opened just before is closed by the next one, plain characters stand
    between the two. -/
theorem plain_of_dropWhile (h : rest.dropWhile isPlainChar = '\x7d' :: tail) :
    ∃ inside, (∀ c ∈ inside, isPlainChar c = true) ∧ rest = inside ++ '\x7d' :: tail := by
  refine ⟨rest.takeWhile isPlainChar, fun c hc => List.mem_takeWhile_imp hc, ?_⟩
  rw [← h]
  exact List.takeWhile_append_dropWhile.symm

/-! ## The innermost braces -/

theorem braceBodies_closed (h : ∀ c ∈ inside, isPlainChar c = true) (rest : List Char) :
    braceBodies ('\x7b' :: (inside ++ '\x7d' :: rest)) = inside :: braceBodies rest := by
  rw [braceBodies, if_pos (beq_self_eq_true _)]
  split
  · rename_i tail heq
    rw [dropWhile_plain h] at heq
    rw [takeWhile_plain h, (List.cons.inj heq).2]
  · rename_i hne
    exact absurd (dropWhile_plain h rest) (hne rest)

/-- A brace that is not closed by the next one is no innermost one. -/
theorem braceBodies_open (h : ∀ tail, rest.dropWhile isPlainChar ≠ '\x7d' :: tail) :
    braceBodies ('\x7b' :: rest) = braceBodies rest := by
  rw [braceBodies, if_pos (beq_self_eq_true _)]
  split
  · rename_i tail heq
    exact absurd heq (h tail)
  · rfl

theorem braceBodies_cons_of_ne (h : c ≠ '\x7b') (rest : List Char) :
    braceBodies (c :: rest) = braceBodies rest := by
  rw [braceBodies, if_neg (by rwa [beq_iff_eq])]

/-! ## Tokens inside braces -/

/-- What a token's parameter is does not depend on what follows the token. -/
theorem parameterAt?_closed (h : ∀ c ∈ inside, isPlainChar c = true) :
    ∃ parameter : Option (Option String), ∀ rest,
      parameterAt? (inside ++ '\x7d' :: rest) = parameter.map fun p => (p, rest) := by
  cases inside with
  | nil => exact ⟨some none, fun _ => rfl⟩
  | cons c inside =>
    have hinside : ∀ c ∈ inside, isPlainChar c = true := (List.forall_mem_cons.mp h).2
    by_cases hcolon : c = ':'
    · refine ⟨some (some (String.ofList inside)), fun rest => ?_⟩
      rw [hcolon, List.cons_append, parameterAt?, dropWhile_plain hinside,
        takeWhile_plain hinside]
      rfl
    · refine ⟨none, fun rest => ?_⟩
      have hbrace := (isPlainChar_iff.mp (List.forall_mem_cons.mp h).1).2
      rw [List.cons_append]
      unfold parameterAt?
      split
      · rename_i heq
        exact absurd (List.cons.inj heq).1 hbrace
      · rename_i heq
        exact absurd (List.cons.inj heq).1 hcolon
      · rfl

/-- A name ends before a brace that closes. -/
theorem nameChars_append (inside rest : List Char) :
    (inside ++ '\x7d' :: rest).takeWhile isNameChar = inside.takeWhile isNameChar ∧
      (inside ++ '\x7d' :: rest).dropWhile isNameChar =
        inside.dropWhile isNameChar ++ '\x7d' :: rest := by
  have hstop : ¬isNameChar '\x7d' = true := by decide
  induction inside with
  | nil => exact ⟨List.takeWhile_cons_of_neg hstop, List.dropWhile_cons_of_neg hstop⟩
  | cons c inside ih =>
    rw [List.cons_append, List.takeWhile_cons, List.takeWhile_cons, List.dropWhile_cons,
      List.dropWhile_cons, ih.1, ih.2]
    split
    · exact ⟨rfl, rfl⟩
    · exact ⟨rfl, rfl⟩

/-- The token that a pair of braces is, if it is one, does not depend on what follows. -/
theorem tokenAt?_closed (h : ∀ c ∈ inside, isPlainChar c = true) (rest : List Char) :
    tokenAt? ('\x7b' :: (inside ++ '\x7d' :: rest)) =
      (token? ('\x7b' :: inside ++ ['\x7d'])).map fun t => (t, rest) := by
  have hfound : ∃ token : Option Token, ∀ rest,
      tokenAt? ('\x7b' :: (inside ++ '\x7d' :: rest)) = token.map fun t => (t, rest) := by
    have hparameter : ∀ c ∈ inside.dropWhile isNameChar, isPlainChar c = true :=
      fun c hc => h c ((List.dropWhile_suffix isNameChar).subset hc)
    obtain ⟨parameter, hparameter⟩ := parameterAt?_closed hparameter
    have hhead (rest : List Char) : ((inside ++ '\x7d' :: rest).head?.map isNameStart).getD false =
        (inside.head?.map isNameStart).getD false := by
      cases inside with
      | nil => rfl
      | cons c inside => rfl
    refine ⟨if (inside.head?.map isNameStart).getD false then
      parameter.map fun p => ⟨String.ofList (inside.takeWhile isNameChar), p⟩ else none,
      fun rest => ?_⟩
    unfold tokenAt?
    simp only [hhead, (nameChars_append inside rest).1, (nameChars_append inside rest).2,
      hparameter, Option.map_map]
    split
    · rw [Option.map_map]
      rfl
    · rfl
  obtain ⟨token, hfound⟩ := hfound
  have htoken : token? ('\x7b' :: inside ++ ['\x7d']) = token := by
    unfold token?
    rw [List.cons_append, hfound []]
    cases token with
    | none => rfl
    | some t => rfl
  rw [hfound, htoken]

theorem tokenAt?_of_ne (h : c ≠ '\x7b') (rest : List Char) : tokenAt? (c :: rest) = none := by
  unfold tokenAt?
  split
  · rename_i heq
    exact absurd (List.cons.inj heq).1 h
  · rfl

theorem plain_of_parameterAt? {parameter : String}
    (h : parameterAt? cs = some (some parameter, rest)) :
    ∀ c ∈ parameter.toList, isPlainChar c = true := by
  unfold parameterAt? at h
  split at h
  · cases h
  · split at h
    · cases h
      rw [String.toList_ofList]
      exact fun c hc => List.mem_takeWhile_imp hc
    · cases h
  · cases h

/-- Nothing but plain characters stands inside a token. -/
theorem plain_of_tokenAt? {t : Token} (h : tokenAt? cs = some (t, rest)) :
    ∀ c ∈ t.body.toList, isPlainChar c = true := by
  unfold tokenAt? at h
  split at h
  · rename_i named
    split at h
    · obtain ⟨⟨parameter, tail⟩, hparameter, heq⟩ := Option.map_eq_some_iff.mp h
      cases heq
      have hname : ∀ c ∈ named.takeWhile isNameChar, isPlainChar c = true :=
        fun c hc => isPlainChar_of_isNameChar (List.mem_takeWhile_imp hc)
      cases parameter with
      | none =>
        show ∀ c ∈ (String.ofList _).toList, _
        rw [String.toList_ofList]
        exact hname
      | some parameter =>
        have hcolon : ∀ c ∈ ":".toList, isPlainChar c = true :=
          List.forall_mem_singleton.mpr rfl
        show ∀ c ∈ (String.ofList _ ++ ":" ++ parameter).toList, _
        rw [String.toList_append, String.toList_append, String.toList_ofList]
        exact List.forall_mem_append.mpr
          ⟨List.forall_mem_append.mpr ⟨hname, hcolon⟩, plain_of_parameterAt? hparameter⟩
    · cases h
  · cases h

/-- A token is closed by the next brace. -/
theorem dropWhile_of_tokenAt? {t : Token} (h : tokenAt? ('\x7b' :: rest) = some (t, tail)) :
    rest.dropWhile isPlainChar = '\x7d' :: tail := by
  have htext := text_of_tokenAt? h
  unfold Token.text at htext
  rw [List.cons_append, List.cons_append, List.append_assoc] at htext
  rw [← (List.cons.inj htext).2]
  exact dropWhile_plain (plain_of_tokenAt? h) tail

/-! ## Reading tokens -/

theorem mem_tokens {t : Token} (h : .token t ∈ pieces cs) : t ∈ tokens cs :=
  List.mem_filterMap.mpr ⟨_, h, rfl⟩

@[simp] theorem tokens_nil : tokens [] = [] := by
  unfold tokens pieces
  rfl

theorem tokens_cons (c : Char) (rest : List Char) :
    tokens (c :: rest) = match tokenAt? (c :: rest) with
      | some (t, tail) => t :: tokens tail
      | none => tokens rest := by
  unfold tokens
  rw [pieces]
  split
  · rename_i t tail heq
    rw [heq]
    rfl
  · rename_i heq
    rw [heq]
    rfl

/-- Plain characters and closing braces hold no token. -/
theorem tokens_append_of_ne (h : ∀ c ∈ cs, c ≠ '\x7b') (rest : List Char) :
    tokens (cs ++ rest) = tokens rest := by
  induction cs with
  | nil => rfl
  | cons c cs ih =>
    obtain ⟨hc, hcs⟩ := List.forall_mem_cons.mp h
    rw [List.cons_append, tokens_cons, tokenAt?_of_ne hc]
    exact ih hcs

/-- The tokens of a text are the insides of its innermost braces that read as tokens. -/
theorem tokens_eq_filterMap (cs : List Char) :
    tokens cs = (braceBodies cs).filterMap fun inside => token? ('\x7b' :: inside ++ ['\x7d']) := by
  fun_induction braceBodies cs with
  | case1 => simp [tokens, pieces]
  | case2 c rest hc tail hclosed ih =>
    obtain ⟨inside, hplain, rfl⟩ := plain_of_dropWhile hclosed
    have hne : ∀ c ∈ inside ++ ['\x7d'], c ≠ '\x7b' :=
      List.forall_mem_append.mpr ⟨fun c hc => (isPlainChar_iff.mp (hplain c hc)).1,
        List.forall_mem_singleton.mpr (by decide)⟩
    rw [beq_iff_eq.mp hc, takeWhile_plain hplain, tokens_cons, tokenAt?_closed hplain,
      List.filterMap_cons, ← ih]
    cases token? ('\x7b' :: inside ++ ['\x7d']) with
    | some t => rfl
    | none =>
      -- The scan goes on behind the brace and finds nothing before the next one.
      have hskip := tokens_append_of_ne hne tail
      rwa [List.append_assoc] at hskip
  | case3 c rest hc hopen ih =>
    have hnone : tokenAt? ('\x7b' :: rest) = none := by
      cases htoken : tokenAt? ('\x7b' :: rest) with
      | none => rfl
      | some found => exact absurd (dropWhile_of_tokenAt? htoken) (hopen found.2)
    rw [beq_iff_eq.mp hc, tokens_cons, hnone]
    exact ih
  | case4 c rest hc ih =>
    rw [beq_iff_eq] at hc
    rw [tokens_cons, tokenAt?_of_ne hc]
    exact ih

/-! ## Texts that follow each other -/

theorem balancedFrom_open (depth : Nat) (rest : List Char) :
    balancedFrom depth ('\x7b' :: rest) = balancedFrom (depth + 1) rest := by
  cases depth <;> rfl

theorem balancedFrom_close (depth : Nat) (rest : List Char) :
    balancedFrom (depth + 1) ('\x7d' :: rest) = balancedFrom depth rest := rfl

theorem balancedFrom_plain (h : isPlainChar c = true) (depth : Nat) (rest : List Char) :
    balancedFrom depth (c :: rest) = balancedFrom depth rest := by
  obtain ⟨hopen, hclose⟩ := isPlainChar_iff.mp h
  rw [balancedFrom.eq_def]
  dsimp only
  rw [if_neg (by rwa [beq_iff_eq]), if_neg (by rwa [beq_iff_eq])]

theorem balancedFrom_append_plain (h : ∀ c ∈ inside, isPlainChar c = true) (depth : Nat)
    (rest : List Char) : balancedFrom depth (inside ++ rest) = balancedFrom depth rest := by
  induction inside with
  | nil => rfl
  | cons c inside ih =>
    obtain ⟨hc, hinside⟩ := List.forall_mem_cons.mp h
    rw [List.cons_append, balancedFrom_plain hc]
    exact ih hinside

/-- In a text that closes the brace before it, a brace comes before the end. -/
theorem dropWhile_ne_nil_of_balanced {depth : Nat} (h : balancedFrom (depth + 1) cs = true) :
    cs.dropWhile isPlainChar ≠ [] := by
  intro hnil
  have hplain := List.dropWhile_eq_nil_iff.mp hnil
  rw [← List.append_nil cs, balancedFrom_append_plain hplain] at h
  cases h

/-- After a text whose braces are all closed, the innermost braces are those of what follows. -/
theorem braceBodies_append {depth : Nat} (h : balancedFrom depth cs = true) (rest : List Char) :
    braceBodies (cs ++ rest) = braceBodies cs ++ braceBodies rest := by
  fun_induction braceBodies cs generalizing depth with
  | case1 => rfl
  | case2 c cs hc tail hclosed ih =>
    obtain ⟨inside, hplain, rfl⟩ := plain_of_dropWhile hclosed
    rw [beq_iff_eq.mp hc, balancedFrom_open, balancedFrom_append_plain hplain,
      balancedFrom_close] at h
    rw [beq_iff_eq.mp hc, takeWhile_plain hplain, List.cons_append, List.append_assoc,
      List.cons_append, braceBodies_closed hplain, ih h, List.cons_append]
  | case3 c cs hc hopen ih =>
    rw [beq_iff_eq.mp hc, balancedFrom_open] at h
    -- The brace that comes next is in the text itself, and it opens.
    have hopen (tail : List Char) : (cs ++ rest).dropWhile isPlainChar ≠ '\x7d' :: tail := by
      rw [List.dropWhile_append, if_neg (by
        rw [List.isEmpty_iff]
        exact dropWhile_ne_nil_of_balanced h)]
      cases hbrace : cs.dropWhile isPlainChar with
      | nil => exact absurd hbrace (dropWhile_ne_nil_of_balanced h)
      | cons d more =>
        intro heq
        rw [(List.cons.inj heq).1] at hbrace
        exact hopen more hbrace
    rw [beq_iff_eq.mp hc, List.cons_append, braceBodies_open hopen, ih h]
  | case4 c cs hc ih =>
    rw [beq_iff_eq] at hc
    rw [List.cons_append, braceBodies_cons_of_ne hc]
    by_cases hclose : c = '\x7d'
    · rw [hclose] at h
      cases depth with
      | zero => cases h
      | succ depth => exact ih h
    · rw [balancedFrom_plain (isPlainChar_iff.mpr ⟨hc, hclose⟩)] at h
      exact ih h

/-- After a text whose braces are all closed, the tokens are those of what follows. -/
theorem tokens_append (h : isBalanced cs = true) (rest : List Char) :
    tokens (cs ++ rest) = tokens cs ++ tokens rest := by
  rw [tokens_eq_filterMap, tokens_eq_filterMap, tokens_eq_filterMap, braceBodies_append h,
    List.filterMap_append]

end SerialNumbers.Pattern
