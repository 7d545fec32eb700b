/-
  SerialNumbers.Proofs.Pattern.Splitting

  What a pattern is split into.  Conditionals and the scan that comes upon them
  are described here without the way in which they are found: by the open braces
  of a text less its closing ones, and by the places that the scan comes to.
  Main statement: for every pattern, what its segments are and when a
  conditional is noted as never closed (`Template.split_splits`).
-/
import Mathlib.Data.List.Chain
import SerialNumbers.Proofs.Pattern.Segment
import SerialNumbers.Proofs.Pattern.Template

namespace SerialNumbers

open Pattern

namespace Pattern

variable {cs xs ys body raw rest tail : List Char} {position i : Nat} {before : List Char}

/-! ## Open braces -/

/-- The open braces of a text less its closing ones. -/
def surplus (cs : List Char) : Int :=
  (cs.count '\x7b' : Int) - cs.count '\x7d'

theorem surplus_append (xs ys : List Char) : surplus (xs ++ ys) = surplus xs + surplus ys := by
  unfold surplus
  rw [List.count_append, List.count_append]
  omega

theorem surplus_open (cs : List Char) : surplus ('\x7b' :: cs) = surplus cs + 1 := by
  unfold surplus
  rw [List.count_cons_self, List.count_cons_of_ne (by decide)]
  omega

theorem surplus_close (cs : List Char) : surplus ('\x7d' :: cs) = surplus cs - 1 := by
  unfold surplus
  rw [List.count_cons_self, List.count_cons_of_ne (by decide)]
  omega

theorem surplus_plain {c : Char} (h : isPlainChar c = true) (cs : List Char) :
    surplus (c :: cs) = surplus cs := by
  obtain ⟨hopen, hclose⟩ := isPlainChar_iff.mp h
  unfold surplus
  rw [List.count_cons_of_ne hopen, List.count_cons_of_ne hclose]

/-- The start of a text is empty, or goes on behind its first character. -/
theorem forall_prefix_cons {c : Char} {p : List Char → Prop} :
    (∀ start, start <+: c :: cs → p start) ↔
      p [] ∧ ∀ start, start <+: cs → p (c :: start) := by
  constructor
  · intro h
    exact ⟨h [] (List.nil_prefix), fun start hstart =>
      h (c :: start) (List.cons_prefix_cons.mpr ⟨rfl, hstart⟩)⟩
  · rintro ⟨hnil, hcons⟩ start hstart
    rcases List.prefix_cons_iff.mp hstart with rfl | ⟨more, rfl, hmore⟩
    · exact hnil
    · exact hcons more hmore

/-- A text closes as many braces as were open before it, and never more on the way. -/
theorem balancedFrom_iff {depth : Nat} : balancedFrom depth cs = true ↔
    (depth : Int) + surplus cs = 0 ∧ ∀ start, start <+: cs → 0 ≤ (depth : Int) + surplus start := by
  induction cs generalizing depth with
  | nil =>
    have hnil : surplus [] = 0 := rfl
    constructor
    · intro h
      have hdepth : depth = 0 := beq_iff_eq.mp h
      refine ⟨by omega, ?_⟩
      intro start hstart
      rw [List.prefix_nil.mp hstart]
      omega
    · rintro ⟨hdepth, -⟩
      have hdepth : depth = 0 := by omega
      rw [hdepth]
      rfl
  | cons c cs ih =>
    rw [forall_prefix_cons]
    have hnil : surplus [] = 0 := rfl
    obtain rfl | rfl | hplain := brace_or_plain c
    · simp only [balancedFrom_open, ih, surplus_open, Int.natCast_add, Int.natCast_one,
        Int.add_assoc, Int.add_comm (1 : Int)]
      constructor
      · rintro ⟨hclosed, hstarts⟩
        exact ⟨hclosed, by omega, hstarts⟩
      · rintro ⟨hclosed, -, hstarts⟩
        exact ⟨hclosed, hstarts⟩
    · simp only [surplus_close]
      cases depth with
      | zero =>
        -- The brace would close one that is not open.
        constructor
        · intro h
          cases h
        · rintro ⟨-, -, hstarts⟩
          have hfirst := hstarts [] List.nil_prefix
          omega
      | succ depth =>
        rw [balancedFrom_close, ih]
        constructor
        · rintro ⟨hclosed, hstarts⟩
          refine ⟨by omega, by omega, ?_⟩
          intro start hstart
          have hle := hstarts start hstart
          omega
        · rintro ⟨hclosed, -, hstarts⟩
          refine ⟨by omega, ?_⟩
          intro start hstart
          have hle := hstarts start hstart
          omega
    · simp only [balancedFrom_plain hplain, ih, surplus_plain hplain]
      constructor
      · rintro ⟨hclosed, hstarts⟩
        exact ⟨hclosed, by omega, hstarts⟩
      · rintro ⟨hclosed, -, hstarts⟩
        exact ⟨hclosed, hstarts⟩

/-- No brace closes the innermost of those that are open just when no start of the text closes
    more than there are. -/
theorem splitClose_eq_none {depth : Nat} (h : splitClose depth cs = none) (start : List Char)
    (hstart : start <+: cs) : 0 ≤ (depth : Int) + surplus start := by
  induction cs generalizing depth start with
  | nil =>
    rw [List.prefix_nil.mp hstart]
    have hnil : surplus [] = 0 := rfl
    omega
  | cons c cs ih =>
    have hnil : surplus [] = 0 := rfl
    revert start
    rw [forall_prefix_cons]
    refine ⟨by omega, ?_⟩
    intro start hstart
    unfold splitClose at h
    obtain rfl | rfl | hplain := brace_or_plain c
    · have hle := @ih (depth + 1) (Option.map_eq_none_iff.mp h) start hstart
      rw [surplus_open]
      omega
    · cases depth with
      | zero => cases h
      | succ depth =>
        have hle := ih (Option.map_eq_none_iff.mp h) start hstart
        rw [surplus_close]
        omega
    · obtain ⟨hopen, hclose⟩ := isPlainChar_iff.mp hplain
      rw [if_neg (by rwa [beq_iff_eq]), if_neg (by rwa [beq_iff_eq])] at h
      have hle := ih (Option.map_eq_none_iff.mp h) start hstart
      rw [surplus_plain hplain]
      exact hle

/-! ## Conditionals -/

/-- The two characters that open a conditional. -/
def opening : List Char := ['\x7b', '?']

/-- The text is a conditional: it opens one, and its last character is the first at which all of
    its braces are closed. -/
structure IsConditional (raw : List Char) : Prop where
  opens : opening <+: raw
  inside : ∀ start, start <+: raw → start ≠ [] → start ≠ raw → 1 ≤ surplus start
  closed : surplus raw = 0

/-- What opens a conditional and closes its braces at the end is one. -/
theorem isConditional_of_balanced (h : isBalanced body = true) :
    IsConditional ('\x7b' :: '?' :: body ++ ['\x7d']) := by
  obtain ⟨hclosed, hstarts⟩ := balancedFrom_iff.mp h
  have hmark (cs : List Char) : surplus ('?' :: cs) = surplus cs := surplus_plain rfl cs
  have hend : surplus ['\x7d'] = -1 := rfl
  refine ⟨⟨body ++ ['\x7d'], rfl⟩, ?_, ?_⟩
  · intro start hstart hnonempty hproper
    -- A proper start ends within the body.
    have hbody : start <+: '\x7b' :: '?' :: body := by
      rcases List.prefix_concat_iff.mp hstart with heq | hbody
      · exact absurd heq hproper
      · exact hbody
    rcases List.prefix_cons_iff.mp hbody with rfl | ⟨marked, rfl, hmarked⟩
    · exact absurd rfl hnonempty
    · rw [surplus_open]
      rcases List.prefix_cons_iff.mp hmarked with rfl | ⟨part, rfl, hpart⟩
      · decide
      · have hle := hstarts part hpart
        rw [hmark]
        omega
  · rw [surplus_append, surplus_open, hmark, hend]
    omega

/-- A conditional is not the start of another one. -/
theorem IsConditional.eq_of_prefix (hx : IsConditional xs) (hy : IsConditional ys)
    (h : xs <+: ys) : xs = ys := by
  by_cases heq : xs = ys
  · exact heq
  · have hnonempty : xs ≠ [] := by
      rintro rfl
      exact absurd (List.prefix_nil.mp hx.opens) (by decide)
    have hopen := hy.inside xs h hnonempty heq
    have hclosed := hx.closed
    omega

/-- A conditional opens here that is closed nowhere. -/
structure NeverCloses (rest : List Char) : Prop where
  opens : opening <+: rest
  unclosed : ∀ raw, raw <+: rest → ¬IsConditional raw

theorem neverCloses_of_splitClose (h : splitClose 0 rest = none) :
    NeverCloses ('\x7b' :: '?' :: rest) := by
  refine ⟨⟨rest, rfl⟩, ?_⟩
  intro raw hraw hconditional
  obtain ⟨more, rfl⟩ := hconditional.opens
  have hmore : more <+: rest := (List.prefix_append_right_inj opening).mp hraw
  have hle := splitClose_eq_none h more hmore
  have hclosed := hconditional.closed
  rw [surplus_append] at hclosed
  have hopening : surplus opening = 1 := rfl
  omega

/-! ## The scan -/

/-- The scan of a text comes to a rest of it: character by character where no conditional opens,
    and past each conditional at once. -/
inductive Reaches : List Char → List Char → Prop where
  | here (cs : List Char) : Reaches cs cs
  | character {c : Char} {cs rest : List Char} (hplain : ¬opening <+: c :: cs)
      (h : Reaches cs rest) : Reaches (c :: cs) rest
  | conditional {raw cs rest : List Char} (hraw : IsConditional raw) (h : Reaches cs rest) :
      Reaches (raw ++ cs) rest

theorem Reaches.suffix (h : Reaches cs rest) : rest <:+ cs := by
  induction h with
  | here cs => exact List.suffix_rfl
  | character hplain h ih => exact ih.trans (List.suffix_cons _ _)
  | conditional hraw h ih => exact ih.trans (List.suffix_append _ _)

/-- Past a conditional the scan comes to what is reached behind it. -/
theorem Reaches.of_conditional (hraw : IsConditional raw) (h : Reaches (raw ++ cs) rest)
    (hrest : NeverCloses rest) : Reaches cs rest := by
  generalize htext : raw ++ cs = text at h
  cases h with
  | here =>
    subst htext
    exact absurd hraw (hrest.unclosed raw (List.prefix_append _ _))
  | character hplain h =>
    rw [← htext] at hplain
    exact absurd (hraw.opens.trans (List.prefix_append _ _)) hplain
  | @conditional raw' cs' _ hraw' h =>
    -- Of two conditionals at one place one is the start of the other.
    have heq : raw = raw' := by
      have hprefix : raw <+: raw' ++ cs' := ⟨cs, htext⟩
      rcases List.prefix_or_prefix_of_prefix hprefix (List.prefix_append raw' cs') with hle | hle
      · exact hraw.eq_of_prefix hraw' hle
      · exact (hraw'.eq_of_prefix hraw hle).symm
    subst heq
    rw [List.append_cancel_left htext]
    exact h

theorem Reaches.of_character {c : Char} (hplain : ¬opening <+: c :: cs)
    (h : Reaches (c :: cs) rest) (hrest : NeverCloses rest) : Reaches cs rest := by
  generalize htext : c :: cs = text at h
  cases h with
  | here =>
    subst htext
    exact absurd hrest.opens hplain
  | character _ h =>
    cases htext
    exact h
  | conditional hraw _ =>
    rw [htext] at hplain
    exact absurd (hraw.opens.trans (List.prefix_append _ _)) hplain

/-- The scan does not go past a conditional that is never closed. -/
theorem Reaches.eq_of_neverCloses (h : Reaches cs rest) (hcs : NeverCloses cs) : rest = cs := by
  cases h with
  | here => rfl
  | character hplain _ => exact absurd hcs.opens hplain
  | conditional hraw _ => exact absurd hraw (hcs.unclosed _ (List.prefix_append _ _))

theorem Reaches.eq_nil (h : Reaches [] rest) : rest = [] :=
  List.suffix_nil.mp h.suffix

/-! ## Splitting -/

/-- Where splitting finds a conditional that opens. -/
theorem opening_prefix_iff {c : Char} :
    opening <+: c :: rest ↔ (c == '\x7b' && rest.head? == some '?') = true := by
  cases rest with
  | nil => simp [opening]
  | cons d rest =>
    simp only [opening, List.cons_prefix_cons, List.nil_prefix, and_true, Bool.and_eq_true,
      beq_iff_eq, List.head?_cons, Option.some.injEq]
    rw [eq_comm (a := c), eq_comm (a := d)]

/-- A conditional that opens is told from the two characters before its body. -/
theorem eq_opening {c : Char} (h : (c == '\x7b' && rest.head? == some '?') = true) :
    c :: rest = '\x7b' :: '?' :: rest.tail := by
  obtain ⟨more, hmore⟩ := opening_prefix_iff.mpr h
  cases hmore
  rfl

/-- What splitting takes off the text is a conditional. -/
theorem split_conditional {c : Char} (h : (c == '\x7b' && rest.head? == some '?') = true)
    (hclose : splitClose 0 rest.tail = some (body, tail)) (position : Nat) :
    c :: rest = (Conditional.mk body position).raw ++ tail ∧
      IsConditional (Conditional.mk body position).raw := by
  refine ⟨?_, isConditional_of_balanced (balancedFrom_of_splitClose hclose)⟩
  rw [eq_opening h, ← text_of_splitClose hclose]
  simp [Conditional.raw]

theorem length_raw (body : List Char) (position : Nat) :
    (Conditional.mk body position).raw.length = body.length + 3 := by
  simp [Conditional.raw]

/-- A position is noted exactly where the scan comes to a conditional that is never closed. -/
theorem unclosed_segmentsFrom : (segmentsFrom position before cs).2 = some i ↔
    ∃ rest, Reaches cs rest ∧ NeverCloses rest ∧ i + rest.length = position + cs.length := by
  fun_induction segmentsFrom position before cs with
  | case1 position before =>
    constructor
    · intro h
      cases h
    · rintro ⟨rest, hreaches, hrest, -⟩
      rw [hreaches.eq_nil] at hrest
      exact absurd (List.prefix_nil.mp hrest.opens) (by decide)
  | case2 position before c rest hopen hnone =>
    have hnever : NeverCloses (c :: rest) := by
      rw [eq_opening hopen]
      exact neverCloses_of_splitClose hnone
    constructor
    · intro h
      cases h
      exact ⟨c :: rest, .here _, hnever, rfl⟩
    · rintro ⟨last, hreaches, -, hlength⟩
      rw [hreaches.eq_of_neverCloses hnever] at hlength
      exact congrArg some (by omega)
  | case3 position before c rest hopen body tail hclose more unclosed heq ih =>
    obtain ⟨htext, hraw⟩ := split_conditional hopen hclose position
    have hlength : (c :: rest).length = body.length + 3 + tail.length := by
      rw [htext, List.length_append, length_raw]
    rw [heq] at ih
    rw [ih, htext, List.length_append, length_raw]
    constructor
    · rintro ⟨last, hreaches, hlast, hposition⟩
      exact ⟨last, .conditional hraw hreaches, hlast, by omega⟩
    · rintro ⟨last, hreaches, hlast, hposition⟩
      exact ⟨last, hreaches.of_conditional hraw hlast, hlast, by omega⟩
  | case4 position before c rest hopen ih =>
    rw [← opening_prefix_iff] at hopen
    rw [ih, List.length_cons]
    constructor
    · rintro ⟨last, hreaches, hlast, hposition⟩
      exact ⟨last, .character hopen hreaches, hlast, by omega⟩
    · rintro ⟨last, hreaches, hlast, hposition⟩
      exact ⟨last, hreaches.of_character hopen hlast, hlast, by omega⟩

/-- A conditional is where its positions say. -/
theorem raw_prefix_of_mem {c : Conditional}
    (h : .conditional c ∈ (segmentsFrom position before cs).1) :
    position ≤ c.start ∧ c.raw <+: cs.drop (c.start - position) := by
  fun_induction segmentsFrom position before cs with
  | case1 => exact absurd h (not_conditional_mem_literalOf _ _)
  | case2 => exact absurd h (not_conditional_mem_literalOf _ _)
  | case3 position before d rest hopen body tail hclose more unclosed heq ih =>
    obtain ⟨htext, -⟩ := split_conditional hopen hclose position
    rw [List.append_cons, List.mem_append, List.mem_append, List.mem_singleton] at h
    rcases h with (h | h) | h
    · exact absurd h (not_conditional_mem_literalOf _ _)
    · cases h
      rw [htext, Nat.sub_self]
      exact ⟨Nat.le_refl _, List.prefix_append _ _⟩
    · rw [heq] at ih
      obtain ⟨hle, hprefix⟩ := ih h
      refine ⟨by omega, ?_⟩
      have hsplit : c.start - position =
          (Conditional.mk body position).raw.length + (c.start - (position + body.length + 3)) := by
        rw [length_raw]
        omega
      rw [htext, hsplit, ← List.drop_drop, List.drop_left]
      exact hprefix
  | case4 position before d rest hopen ih =>
    obtain ⟨hle, hprefix⟩ := ih h
    have hsplit : c.start - position = c.start - (position + 1) + 1 := by omega
    rw [hsplit, List.drop_succ_cons]
    exact ⟨by omega, hprefix⟩

theorem mem_literalOf {text : List Char} (h : .literal text ∈ literalOf before) :
    text = before ∧ text ≠ [] := by
  unfold literalOf at h
  split at h
  · exact absurd h List.not_mem_nil
  · rename_i hnonempty
    cases List.mem_singleton.mp h
    exact ⟨rfl, fun hnil => hnonempty (List.isEmpty_iff.mpr hnil)⟩

/-- No literal text is empty. -/
theorem ne_nil_of_mem {text : List Char}
    (h : .literal text ∈ (segmentsFrom position before cs).1) : text ≠ [] := by
  fun_induction segmentsFrom position before cs with
  | case1 => exact (mem_literalOf h).2
  | case2 => exact (mem_literalOf h).2
  | case3 position before d rest hopen body tail hclose more unclosed heq ih =>
    rw [heq] at ih
    rcases List.mem_append.mp h with h | h
    · exact (mem_literalOf h).2
    · rcases List.mem_cons.mp h with h | h
      · cases h
      · exact ih h
  | case4 position before d rest hopen ih => exact ih h

/-- Not both of two segments are literal text. -/
def Segment.Apart (a b : Segment) : Prop :=
  ∀ x y, ¬(a = .literal x ∧ b = .literal y)

theorem isChain_literalOf (text : List Char) : (literalOf text).IsChain Segment.Apart := by
  unfold literalOf
  split
  · exact .nil
  · exact .singleton _

/-- Literal text is followed by a conditional or by nothing. -/
theorem isChain_segmentsFrom (position : Nat) (before cs : List Char) :
    (segmentsFrom position before cs).1.IsChain Segment.Apart := by
  fun_induction segmentsFrom position before cs with
  | case1 => exact isChain_literalOf _
  | case2 => exact isChain_literalOf _
  | case3 position before d rest hopen body tail hclose more unclosed heq ih =>
    rw [heq] at ih
    refine List.isChain_append.mpr ⟨isChain_literalOf _, List.isChain_cons.mpr ⟨?_, ih⟩, ?_⟩
    · rintro segment - x y ⟨hconditional, -⟩
      cases hconditional
    · rintro segment - other hother x y ⟨-, hliteral⟩
      rw [← Option.mem_some.mp hother] at hliteral
      cases hliteral
  | case4 position before d rest hopen ih => exact ih

/-- From the position that is noted on, the text is the end of the last segment, which is literal
    text. -/
theorem literal_of_unclosed (h : (segmentsFrom position before cs).2 = some i) :
    position ≤ i ∧ ∃ front text, (segmentsFrom position before cs).1 =
      front ++ [.literal (text ++ cs.drop (i - position))] := by
  fun_induction segmentsFrom position before cs with
  | case1 => cases h
  | case2 position before c rest hopen hnone =>
    cases h
    refine ⟨Nat.le_refl _, [], before, ?_⟩
    rw [Nat.sub_self]
    unfold literalOf
    rw [if_neg (by simp)]
    rfl
  | case3 position before c rest hopen body tail hclose more unclosed heq ih =>
    rw [heq] at ih
    obtain ⟨hle, front, text, hmore⟩ := ih h
    obtain ⟨htext, -⟩ := split_conditional hopen hclose position
    have hsplit : i - position =
        (Conditional.mk body position).raw.length + (i - (position + body.length + 3)) := by
      rw [length_raw]
      omega
    refine ⟨by omega, literalOf before ++ .conditional ⟨body, position⟩ :: front, text, ?_⟩
    rw [htext, hsplit, ← List.drop_drop, List.drop_left, List.append_assoc, List.cons_append,
      ← hmore]
  | case4 position before c rest hopen ih =>
    obtain ⟨hle, front, text, hsegments⟩ := ih h
    have hsplit : i - position = i - (position + 1) + 1 := by omega
    refine ⟨by omega, front, text, ?_⟩
    rw [hsplit, List.drop_succ_cons, hsegments]

/-! ## Literal text -/

theorem opensConditional_iff : opensConditional cs = true ↔ opening <:+: cs := by
  induction cs with
  | nil => decide
  | cons c rest ih =>
    rw [opensConditional, Bool.or_eq_true, ih, ← opening_prefix_iff, List.infix_cons_iff]

/-- No conditional opens in the text collected so far, nor with the character after it. -/
def Unopened (before cs : List Char) : Prop :=
  ¬opening <:+: before ++ cs.take 1

theorem unopened_nil (cs : List Char) : Unopened [] cs := by
  intro hopen
  have hlength := hopen.length_le
  rw [List.nil_append, List.length_take] at hlength
  have htwo : opening.length = 2 := rfl
  omega

theorem Unopened.collected (h : Unopened before cs) : ¬opening <:+: before :=
  fun hopen => h (hopen.trans (List.prefix_append _ _).isInfix)

/-- A character at which no conditional opens is collected. -/
theorem Unopened.character {c : Char} (h : Unopened before (c :: cs))
    (hplain : ¬opening <+: c :: cs) : Unopened (before ++ [c]) cs := by
  intro hopen
  cases cs with
  | nil =>
    rw [List.take_nil, List.append_nil] at hopen
    exact h hopen
  | cons d cs =>
    rcases List.infix_concat_iff.mp hopen with hend | hbefore
    · -- The last two characters would open a conditional at the first of them.
      obtain ⟨front, hfront⟩ := hend
      rw [List.append_assoc] at hfront
      obtain ⟨-, hlast⟩ := List.append_inj' hfront rfl
      exact hplain (hlast ▸ ⟨cs, rfl⟩)
    · exact h hbefore

/-- Without a note no literal text opens a conditional. -/
theorem plain_of_mem (h : (segmentsFrom position before cs).2 = none) {text : List Char}
    (htext : .literal text ∈ (segmentsFrom position before cs).1) (hbefore : Unopened before cs) :
    ¬opening <:+: text := by
  fun_induction segmentsFrom position before cs with
  | case1 =>
    rw [(mem_literalOf htext).1]
    exact hbefore.collected
  | case2 => cases h
  | case3 position before d rest hopen body tail hclose more unclosed heq ih =>
    rw [heq] at ih
    rcases List.mem_append.mp htext with htext | htext
    · rw [(mem_literalOf htext).1]
      exact hbefore.collected
    · rcases List.mem_cons.mp htext with htext | htext
      · cases htext
      · exact ih h htext (unopened_nil _)
  | case4 position before d rest hopen ih =>
    exact ih h htext (hbefore.character (opening_prefix_iff.not.mpr hopen))

/-- Without a note and without a conditional nothing in the text opens one. -/
theorem plain_of_no_conditional (h : (segmentsFrom position before cs).2 = none)
    (hnone : ∀ c, .conditional c ∉ (segmentsFrom position before cs).1)
    (hbefore : Unopened before cs) : ¬opening <:+: before ++ cs := by
  fun_induction segmentsFrom position before cs with
  | case1 => exact hbefore
  | case2 => cases h
  | case3 position before d rest hopen body tail hclose more unclosed heq ih =>
    exact absurd (List.mem_append_right _ List.mem_cons_self) (hnone ⟨body, position⟩)
  | case4 position before d rest hopen ih =>
    rw [List.append_cons]
    exact ih h hnone (hbefore.character (opening_prefix_iff.not.mpr hopen))

end Pattern

/-! ## Templates -/

namespace Template

/-- The template of any pattern, of whatever length. -/
def split (pattern : String) : Template :=
  ⟨pattern, (Pattern.segments pattern.toList).1, (Pattern.segments pattern.toList).2⟩

/-- What the segments of a template are, and when a conditional is noted as never closed. -/
structure Splits (t : Template) : Prop where
  joined : t.segments.flatMap Segment.text = t.text
  placed : ∀ c, .conditional c ∈ t.segments →
    (t.text.take c.stop).drop c.start = '\x7b' :: '?' :: c.body ++ ['\x7d']
  bracketed : ∀ c, .conditional c ∈ t.segments →
    IsConditional ('\x7b' :: '?' :: c.body ++ ['\x7d'])
  nonempty : ∀ text, .literal text ∈ t.segments → text ≠ []
  apart : t.segments.IsChain Segment.Apart
  noted : ∀ i, t.unclosed = some i ↔
    Reaches t.text (t.text.drop i) ∧ NeverCloses (t.text.drop i)
  errors : t.structureErrors.length ≤ 1 ∧ ∀ e, e ∈ t.structureErrors ↔ ∃ i,
    t.unclosed = some i ∧ e = s!"Unclosed conditional starting at position {i}"
  rest : ∀ i, t.unclosed = some i → ∃ front text,
    t.segments = front ++ [.literal (text ++ t.text.drop i)]
  plain : t.structureErrors = [] → ∀ text, .literal text ∈ t.segments →
    opensConditional text = false
  opens : opensConditional t.text = true ↔ t.hasConditionals = true ∨ t.structureErrors ≠ []

variable {t : Template}

theorem hasConditionals_iff : t.hasConditionals = true ↔ ∃ c, .conditional c ∈ t.segments := by
  unfold hasConditionals
  rw [Bool.not_eq_true', List.isEmpty_eq_false_iff_exists_mem]
  simp only [mem_conditionals]

theorem structureErrors_eq_nil : t.structureErrors = [] ↔ t.unclosed = none := by
  unfold structureErrors
  rw [List.map_eq_nil_iff, Option.toList_eq_nil_iff]

/-- A position is noted exactly if the scan comes there to a conditional that is never closed. -/
theorem unclosed_split {pattern : String} {i : Nat} : (split pattern).unclosed = some i ↔
    Reaches pattern.toList (pattern.toList.drop i) ∧ NeverCloses (pattern.toList.drop i) := by
  refine unclosed_segmentsFrom.trans ?_
  rw [Nat.zero_add]
  constructor
  · rintro ⟨rest, hreaches, hrest, hlength⟩
    have hdrop := List.suffix_iff_eq_drop.mp hreaches.suffix
    have hposition : pattern.toList.length - rest.length = i := by omega
    rw [hposition] at hdrop
    exact hdrop ▸ ⟨hreaches, hrest⟩
  · rintro ⟨hreaches, hrest⟩
    refine ⟨_, hreaches, hrest, ?_⟩
    have hlength := hrest.opens.length_le
    have htwo : opening.length = 2 := rfl
    rw [List.length_drop] at hlength ⊢
    omega

/-- A conditional that opens is a segment, or noted as never closed. -/
theorem opens_split (pattern : String) : opensConditional pattern.toList = true ↔
    (split pattern).hasConditionals = true ∨ (split pattern).structureErrors ≠ [] := by
  rw [opensConditional_iff]
  constructor
  · intro hopen
    by_cases hnone : (split pattern).structureErrors = []
    · left
      rw [hasConditionals_iff]
      apply Classical.byContradiction
      intro hconditional
      exact plain_of_no_conditional (structureErrors_eq_nil.mp hnone)
        (fun c hc => hconditional ⟨c, hc⟩) (unopened_nil _) hopen
    · exact .inr hnone
  · rintro (hconditional | hnoted)
    · obtain ⟨c, hc⟩ := hasConditionals_iff.mp hconditional
      have hopens : opening <+: c.raw := ⟨c.body ++ ['\x7d'], rfl⟩
      exact (hopens.trans (raw_prefix_of_mem hc).2).isInfix.trans (List.drop_suffix _ _).isInfix
    · obtain ⟨i, hi⟩ := Option.ne_none_iff_exists'.mp
        (fun hnone => hnoted (structureErrors_eq_nil.mpr hnone))
      have hopens := (unclosed_split.mp hi).2.opens
      exact hopens.isInfix.trans (List.drop_suffix _ _).isInfix

/-- Splitting loses nothing, takes off conditionals where they are, and notes what is never
    closed; and every template comes from it. -/
theorem split_splits (pattern : String) : (split pattern).Splits ∧
    ∀ t, Template.parse pattern = .ok t → t = split pattern := by
  refine ⟨?_, fun t => parse_eq_ok⟩
  constructor
  case joined => exact flatMap_text_segmentsFrom 0 [] pattern.toList
  case placed =>
    intro c hc
    rw [List.drop_take]
    show (pattern.toList.drop c.start).take (c.start + c.raw.length - c.start) = c.raw
    rw [Nat.add_sub_cancel_left]
    exact (List.prefix_iff_eq_take.mp (raw_prefix_of_mem hc).2).symm
  case bracketed =>
    intro c hc
    exact isConditional_of_balanced (isBalanced_body_of_mem hc)
  case nonempty =>
    intro text htext
    exact ne_nil_of_mem htext
  case apart => exact isChain_segmentsFrom 0 [] pattern.toList
  case noted => exact fun i => unclosed_split
  case errors =>
    unfold structureErrors
    cases (split pattern).unclosed with
    | none => simp
    | some i => simp
  case rest =>
    intro i hi
    exact (literal_of_unclosed hi).2
  case plain =>
    intro hnone text htext
    have hplain := plain_of_mem (structureErrors_eq_nil.mp hnone) htext (unopened_nil _)
    rwa [← opensConditional_iff, Bool.not_eq_true] at hplain
  case opens => exact opens_split pattern

end Template
end SerialNumbers
