/-
  SerialNumbers.Proofs.Shape.Matching

  Deciding whether a text has a shape.  The decision takes texts of the parts
  off the front of what is left, and keeps all the rests; repetition is a search
  that stops when it reaches nothing new.  No text gets lost on the way, so that
  a text that has a shape is accepted (`Shape.accepts_of_matches`), and nothing
  is taken off that is no text of a part, so that no other is
  (`Shape.accepts_iff`).
-/
import Mathlib.Data.List.Forall2
import SerialNumbers.Shape.Basic

namespace SerialNumbers.Shape

variable {a : Shape} {step : List (List Char) → List (List Char)}

/-! ## Repetition -/

/-- A repetition in two parts. -/
theorem Repeats.split {m k : Nat} {u : List Char} (h : Repeats a (m + k) u) :
    ∃ first second, u = first ++ second ∧ Repeats a m first ∧ Repeats a k second := by
  induction m generalizing u with
  | zero =>
    rw [Nat.zero_add] at h
    exact ⟨[], u, rfl, .zero a, h⟩
  | succ m ih =>
    rw [Nat.add_right_comm] at h
    cases h with
    | succ hu hv =>
      obtain ⟨first, second, rfl, hfirst, hsecond⟩ := ih hv
      exact ⟨_ ++ first, second, (List.append_assoc _ _ _).symm, .succ hu hfirst, hsecond⟩

/-- Empty texts may be left out of a repetition, and then there are at most as many texts as
    characters. -/
theorem Repeats.shorten {k : Nat} {u : List Char} (h : Repeats a k u) :
    ∃ k', k' ≤ k ∧ k' ≤ u.length ∧ Repeats a k' u := by
  induction k generalizing u with
  | zero =>
    cases h with
    | zero => exact ⟨0, Nat.le_refl 0, Nat.le_refl 0, .zero a⟩
  | succ k ih =>
    cases h with
    | @succ _ _ first rest hfirst hrest =>
      obtain ⟨k', hk', hlength, hrepeats⟩ := ih hrest
      cases first with
      | nil => exact ⟨k', Nat.le_succ_of_le hk', hlength, hrepeats⟩
      | cons c first =>
        refine ⟨k' + 1, Nat.succ_le_succ hk', ?_, .succ hfirst hrepeats⟩
        rw [List.length_append, List.length_cons]
        omega

/-- Characters that each have a shape repeat it. -/
theorem repeats_of_forall {cs : List Char} (h : ∀ c ∈ cs, Matches a [c]) :
    Repeats a cs.length cs := by
  induction cs with
  | nil => exact .zero a
  | cons c cs ih =>
    obtain ⟨hc, hcs⟩ := List.forall_mem_cons.mp h
    exact .succ hc (ih hcs)

/-- As many characters that each have a shape as a repetition allows. -/
theorem matches_times {cs : List Char} {n : Times} (h : ∀ c ∈ cs, Matches a [c])
    (hleast : n.least ≤ cs.length)
    (hmost : ∀ extra, n.extra? = some extra → cs.length ≤ n.least + extra) :
    Matches (.times a n) cs :=
  .times hleast hmost (repeats_of_forall h)

/-- Every text of one line is anything. -/
theorem matches_anything {cs : List Char} (h : '\n' ∉ cs) : Matches anything cs := by
  refine matches_times (fun c hc => .any ?_) (Nat.zero_le _) fun extra hextra => nomatch hextra
  rintro rfl
  exact h hc

/-- Texts of some shapes, joined. -/
theorem matches_seqAll {parts : List Shape} {texts : List (List Char)}
    (h : List.Forall₂ Matches parts texts) : Matches (seqAll parts) texts.flatten := by
  have hfrom (start : Shape) (u : List Char) (hu : Matches start u) :
      Matches (parts.foldl .seq start) (u ++ texts.flatten) := by
    induction h generalizing start u with
    | nil =>
      rw [List.flatten_nil, List.append_nil]
      exact hu
    | @cons part text parts texts hpart hparts ih =>
      rw [List.flatten_cons, ← List.append_assoc]
      exact ih _ _ (hu.seq hpart)
  exact hfrom nothing [] (.literal [])

/-! ## Steps -/

/-- The step takes texts of the shape off the front. -/
def Advances (step : List (List Char) → List (List Char)) (a : Shape) : Prop :=
  ∀ {u v : List Char} {from_ : List (List Char)}, Matches a u → u ++ v ∈ from_ → v ∈ step from_

theorem Advances.mem_steps (h : Advances step a) {n : Nat} {u v : List Char}
    {from_ : List (List Char)} (hu : Repeats a n u) (hmem : u ++ v ∈ from_) :
    v ∈ steps step n from_ := by
  induction n generalizing u from_ with
  | zero =>
    cases hu with
    | zero => exact hmem
  | succ n ih =>
    cases hu with
    | succ hfirst hrest =>
      rw [List.append_assoc] at hmem
      exact ih hrest (h hfirst hmem)

theorem subset_reach {n : Nat} {frontier reached : List (List Char)} {v : List Char}
    (h : v ∈ reached) : v ∈ reach step n frontier reached := by
  induction n generalizing frontier reached with
  | zero => exact h
  | succ n ih =>
    unfold reach
    dsimp only
    split
    · exact h
    · exact ih (List.mem_append_left _ h)

/-- From what is reached, a step leads to what is reached too, unless it starts at the
    frontier. -/
def Closed (a : Shape) (frontier reached : List (List Char)) : Prop :=
  ∀ {u v : List Char}, Matches a u → u ++ v ∈ reached → u ++ v ∈ frontier ∨ v ∈ reached

/-- A repetition that starts at what is reached stays there, or leaves it from the frontier. -/
theorem Closed.departs {frontier reached : List (List Char)} (h : Closed a frontier reached)
    {k : Nat} {u v : List Char} (hu : Repeats a k u) (hmem : u ++ v ∈ reached) :
    v ∈ reached ∨ ∃ first rest k', k' < k ∧ Matches a first ∧ Repeats a k' rest ∧
      first ++ (rest ++ v) ∈ frontier ∧ rest ++ v ∉ reached := by
  induction k generalizing u with
  | zero =>
    cases hu with
    | zero => exact .inl hmem
  | succ k ih =>
    cases hu with
    | @succ _ _ first rest hfirst hrest =>
      rw [List.append_assoc] at hmem
      by_cases hnext : rest ++ v ∈ reached
      · refine (ih hrest hnext).imp_right ?_
        rintro ⟨first', rest', k', hk', hleaves⟩
        exact ⟨first', rest', k', Nat.lt_succ_of_lt hk', hleaves⟩
      · have hfrontier := (h hfirst hmem).resolve_right hnext
        exact .inr ⟨first, rest, k, Nat.lt_succ_self k, hfirst, hrest, hfrontier, hnext⟩

/-- A search of so many steps finds all that so many texts of the shape lead to. -/
theorem Advances.mem_reach (h : Advances step a) {n k : Nat} (hk : k ≤ n)
    {frontier reached : List (List Char)} (hclosed : Closed a frontier reached)
    {u v : List Char} (hu : Repeats a k u) (hmem : u ++ v ∈ reached) :
    v ∈ reach step n frontier reached := by
  induction n generalizing k u frontier reached with
  | zero =>
    cases Nat.le_zero.mp hk
    cases hu with
    | zero => exact hmem
  | succ n ih =>
    rcases hclosed.departs hu hmem with hv | ⟨first, rest, k', hk', hfirst, hrest, hfrontier, hnext⟩
    · exact subset_reach hv
    · have hnew : rest ++ v ∈ (step frontier).filter fun rest => !reached.contains rest := by
        rw [List.mem_filter, Bool.not_eq_true', Bool.eq_false_iff, ne_eq, List.contains_iff_mem]
        exact ⟨h hfirst hfrontier, hnext⟩
      unfold reach
      dsimp only
      split
      · rename_i hempty
        rw [List.isEmpty_iff.mp hempty] at hnew
        cases hnew
      · refine ih (Nat.le_of_lt_succ (Nat.lt_of_lt_of_le hk' hk)) ?_ hrest
          (List.mem_append_right _ hnew)
        -- What was reached before was gone on from, now or earlier.
        intro u v hu hmem
        rcases List.mem_append.mp hmem with hreached | hnew
        · right
          rcases hclosed hu hreached with hfrontier | hv
          · by_cases hv : v ∈ reached
            · exact List.mem_append_left _ hv
            · refine List.mem_append_right _ (List.mem_filter.mpr ⟨h hu hfrontier, ?_⟩)
              rw [Bool.not_eq_true', Bool.eq_false_iff, ne_eq, List.contains_iff_mem]
              exact hv
          · exact List.mem_append_left _ hv
        · exact .inl hnew

theorem length_le_longest {texts : List (List Char)} {u : List Char} (h : u ∈ texts) :
    u.length ≤ longest texts := by
  have hfrom (texts : List (List Char)) (n : Nat) :
      n ≤ texts.foldl (fun n rest => max n rest.length) n ∧
        ∀ u ∈ texts, u.length ≤ texts.foldl (fun n rest => max n rest.length) n := by
    induction texts generalizing n with
    | nil => exact ⟨Nat.le_refl n, List.forall_mem_nil _⟩
    | cons text texts ih =>
      obtain ⟨hstart, hall⟩ := ih (max n text.length)
      refine ⟨Nat.le_trans (Nat.le_max_left _ _) hstart, List.forall_mem_cons.mpr ⟨?_, hall⟩⟩
      exact Nat.le_trans (Nat.le_max_right _ _) hstart
  exact (hfrom texts 0).2 u h

/-! ## Shapes -/

theorem mem_afterChar {p : Char → Bool} {c : Char} (hc : p c = true) {v : List Char}
    {from_ : List (List Char)} (h : c :: v ∈ from_) : v ∈ afterChar p from_ := by
  refine List.mem_filterMap.mpr ⟨c :: v, h, ?_⟩
  dsimp only
  rw [if_pos hc]

theorem mem_dropPrefix {text v : List Char} {from_ : List (List Char)} (h : text ++ v ∈ from_) :
    v ∈ from_.filterMap fun cs =>
      if text.isPrefixOf cs then some (cs.drop text.length) else none := by
  refine List.mem_filterMap.mpr ⟨text ++ v, h, ?_⟩
  rw [if_pos (List.isPrefixOf_iff_prefix.mpr (List.prefix_append text v)), List.drop_left]

theorem mem_joinRests {xs ys : List (List Char)} {v : List Char} (h : v ∈ xs ∨ v ∈ ys) :
    v ∈ joinRests xs ys := by
  unfold joinRests
  by_cases hx : v ∈ xs
  · exact List.mem_append_left _ hx
  · refine List.mem_append_right _ (List.mem_filter.mpr ⟨h.resolve_left hx, ?_⟩)
    rw [Bool.not_eq_true', Bool.eq_false_iff, ne_eq, List.contains_iff_mem]
    exact hx

/-- A repetition of texts that are taken off is taken off: first the least number, then as many
    as there may be more. -/
theorem Advances.times (h : Advances (rests a) a) (n : Times) :
    Advances (rests (.times a n)) (.times a n) := by
  intro u v from_ hu hmem
  cases hu with
  | @times _ _ k _ hleast hmost hrepeats =>
    obtain ⟨more, rfl⟩ := Nat.exists_eq_add_of_le hleast
    obtain ⟨first, second, rfl, hfirst, hsecond⟩ := hrepeats.split
    have hstart : second ++ v ∈ (steps (rests a) n.least from_).eraseDups := by
      rw [List.mem_eraseDups]
      refine h.mem_steps hfirst ?_
      rwa [List.append_assoc] at hmem
    unfold rests
    dsimp only
    have hclosed : Closed a ((steps (rests a) n.least from_).eraseDups)
        ((steps (rests a) n.least from_).eraseDups) := fun _ h => .inl h
    cases hextra : n.extra? with
    | some extra =>
      have hmost := hmost extra hextra
      exact h.mem_reach (by rw [Option.getD_some]; omega) hclosed hsecond hstart
    | none =>
      obtain ⟨k', -, hlength, hshort⟩ := hsecond.shorten
      have hlongest := length_le_longest hstart
      rw [List.length_append] at hlongest
      exact h.mem_reach (by rw [Option.getD_none]; omega) hclosed hshort hstart

/-- What remains behind a text of the shape is among the rests. -/
theorem advances_rests (a : Shape) : Advances (rests a) a := by
  induction a with
  | literal text =>
    intro u v from_ hu hmem
    cases hu
    exact mem_dropPrefix hmem
  | word text =>
    intro u v from_ hu hmem
    cases hu
    exact mem_dropPrefix hmem
  | any =>
    intro u v from_ hu hmem
    cases hu with
    | any hc => exact mem_afterChar (by rwa [bne_iff_ne]) hmem
  | digit =>
    intro u v from_ hu hmem
    cases hu with
    | digit hc => exact mem_afterChar hc hmem
  | oneOf negated items =>
    intro u v from_ hu hmem
    cases hu with
    | oneOf hc => exact mem_afterChar hc hmem
  | seq first second ihFirst ihSecond =>
    intro u v from_ hu hmem
    cases hu with
    | seq hfirst hsecond =>
      rw [List.append_assoc] at hmem
      exact ihSecond hsecond (ihFirst hfirst hmem)
  | either first second ihFirst ihSecond =>
    intro u v from_ hu hmem
    cases hu with
    | first hfirst => exact mem_joinRests (.inl (ihFirst hfirst hmem))
    | second hsecond => exact mem_joinRests (.inr (ihSecond hsecond hmem))
  | group inner ih =>
    intro u v from_ hu hmem
    cases hu with
    | group hinner => exact ih hinner hmem
  | times inner n ih => exact ih.times n
  | declared source inner ih =>
    intro u v from_ hu hmem
    cases hu with
    | declared hinner => exact ih hinner hmem

/-- A text that has a shape is accepted. -/
theorem accepts_of_matches {text : List Char} (h : Matches a text) : a.accepts text = true := by
  unfold accepts
  rw [List.contains_iff_mem]
  refine advances_rests a h ?_
  rw [List.append_nil]
  exact List.mem_singleton_self text

/-! ## Nothing else is taken off -/

/-- The step takes nothing but texts of the shape off the front. -/
def Retreats (step : List (List Char) → List (List Char)) (a : Shape) : Prop :=
  ∀ {v : List Char} {from_ : List (List Char)}, v ∈ step from_ →
    ∃ u, Matches a u ∧ u ++ v ∈ from_

theorem Repeats.single {u : List Char} (h : Matches a u) : Repeats a 1 u := by
  have hone := Repeats.succ h (.zero a)
  rwa [List.append_nil] at hone

theorem Repeats.append {k m : Nat} {u w : List Char} (h : Repeats a k u) (hw : Repeats a m w) :
    Repeats a (k + m) (u ++ w) := by
  induction k generalizing u with
  | zero =>
    cases h with
    | zero => rwa [Nat.zero_add]
  | succ k ih =>
    cases h with
    | @succ _ _ first rest hfirst hrest =>
      rw [List.append_assoc, Nat.add_right_comm]
      exact .succ hfirst (ih hrest)

theorem Retreats.of_mem_steps (h : Retreats step a) {n : Nat} {v : List Char}
    {from_ : List (List Char)} (hv : v ∈ steps step n from_) :
    ∃ u, Repeats a n u ∧ u ++ v ∈ from_ := by
  induction n generalizing from_ with
  | zero => exact ⟨[], .zero a, hv⟩
  | succ n ih =>
    obtain ⟨rest, hrest, hmem⟩ := ih hv
    obtain ⟨first, hfirst, hmem⟩ := h hmem
    exact ⟨first ++ rest, .succ hfirst hrest, by rwa [List.append_assoc]⟩

/-- The rest is what so many texts of the shape at most leave of what a search starts at. -/
def Left (a : Shape) (start : List (List Char)) (most : Nat) (v : List Char) : Prop :=
  ∃ k u, k ≤ most ∧ Repeats a k u ∧ u ++ v ∈ start

/-- A search of so many steps goes over so many texts of the shape at most. -/
theorem Retreats.of_mem_reach (h : Retreats step a) {start frontier reached : List (List Char)}
    {n m : Nat} (hfrontier : ∀ v ∈ frontier, Left a start m v)
    (hreached : ∀ v ∈ reached, Left a start m v) {v : List Char}
    (hv : v ∈ reach step n frontier reached) : Left a start (m + n) v := by
  induction n generalizing m frontier reached with
  | zero => exact hreached v hv
  | succ n ih =>
    unfold reach at hv
    dsimp only at hv
    have hlater {w : List Char} (hw : Left a start m w) : Left a start (m + 1) w := by
      obtain ⟨k, u, hk, hrepeats⟩ := hw
      exact ⟨k, u, Nat.le_succ_of_le hk, hrepeats⟩
    have hnew : ∀ w ∈ (step frontier).filter fun rest => !reached.contains rest,
        Left a start (m + 1) w := by
      intro w hw
      obtain ⟨text, htext, hmem⟩ := h (List.mem_of_mem_filter hw)
      obtain ⟨k, u, hk, hrepeats, hstart⟩ := hfrontier _ hmem
      refine ⟨k + 1, u ++ text, Nat.succ_le_succ hk, hrepeats.append (.single htext), ?_⟩
      rwa [List.append_assoc]
    split at hv
    · obtain ⟨k, u, hk, hrepeats⟩ := hreached v hv
      exact ⟨k, u, by omega, hrepeats⟩
    · rw [← Nat.add_assoc, Nat.add_right_comm]
      refine ih hnew (fun w hw => ?_) hv
      rcases List.mem_append.mp hw with hw | hw
      · exact hlater (hreached w hw)
      · exact hnew w hw

theorem of_mem_afterChar {p : Char → Bool} {v : List Char} {from_ : List (List Char)}
    (h : v ∈ afterChar p from_) : ∃ c, p c = true ∧ c :: v ∈ from_ := by
  obtain ⟨cs, hcs, hfound⟩ := List.mem_filterMap.mp h
  split at hfound
  · rename_i c rest
    split at hfound
    · rename_i hc
      cases hfound
      exact ⟨c, hc, hcs⟩
    · cases hfound
  · cases hfound

theorem of_mem_dropPrefix {text v : List Char} {from_ : List (List Char)}
    (h : v ∈ from_.filterMap fun cs =>
      if text.isPrefixOf cs then some (cs.drop text.length) else none) : text ++ v ∈ from_ := by
  obtain ⟨cs, hcs, hfound⟩ := List.mem_filterMap.mp h
  split at hfound
  · rename_i hprefix
    obtain ⟨rest, rfl⟩ := List.isPrefixOf_iff_prefix.mp hprefix
    rw [List.drop_left] at hfound
    cases hfound
    exact hcs
  · cases hfound

theorem of_mem_joinRests {xs ys : List (List Char)} {v : List Char} (h : v ∈ joinRests xs ys) :
    v ∈ xs ∨ v ∈ ys :=
  (List.mem_append.mp h).imp_right List.mem_of_mem_filter

theorem Retreats.times (h : Retreats (rests a) a) (n : Times) :
    Retreats (rests (.times a n)) (.times a n) := by
  intro v from_ hv
  unfold rests at hv
  dsimp only at hv
  have hleft : ∀ w ∈ (steps (rests a) n.least from_).eraseDups,
      Left a (steps (rests a) n.least from_).eraseDups 0 w :=
    fun w hw => ⟨0, [], Nat.le_refl 0, .zero a, hw⟩
  obtain ⟨k, second, hk, hsecond, hstart⟩ := h.of_mem_reach hleft hleft hv
  rw [List.mem_eraseDups] at hstart
  obtain ⟨first, hfirst, hmem⟩ := h.of_mem_steps hstart
  refine ⟨first ++ second, .times (Nat.le_add_right _ k) ?_ (hfirst.append hsecond), ?_⟩
  · intro extra hextra
    rw [hextra, Option.getD_some] at hk
    omega
  · rwa [List.append_assoc]

/-- What is taken off to leave a rest is a text of the shape. -/
theorem retreats_rests (a : Shape) : Retreats (rests a) a := by
  induction a with
  | literal text => exact fun hv => ⟨text, .literal text, of_mem_dropPrefix hv⟩
  | word text => exact fun hv => ⟨text, .word text, of_mem_dropPrefix hv⟩
  | any =>
    intro v from_ hv
    obtain ⟨c, hc, hmem⟩ := of_mem_afterChar hv
    exact ⟨[c], .any (bne_iff_ne.mp hc), hmem⟩
  | digit =>
    intro v from_ hv
    obtain ⟨c, hc, hmem⟩ := of_mem_afterChar hv
    exact ⟨[c], .digit hc, hmem⟩
  | oneOf negated items =>
    intro v from_ hv
    obtain ⟨c, hc, hmem⟩ := of_mem_afterChar hv
    exact ⟨[c], .oneOf hc, hmem⟩
  | seq first second ihFirst ihSecond =>
    intro v from_ hv
    obtain ⟨w, hw, hmem⟩ := ihSecond hv
    obtain ⟨u, hu, hmem⟩ := ihFirst hmem
    exact ⟨u ++ w, hu.seq hw, by rwa [List.append_assoc]⟩
  | either first second ihFirst ihSecond =>
    intro v from_ hv
    rcases of_mem_joinRests hv with hv | hv
    · obtain ⟨u, hu, hmem⟩ := ihFirst hv
      exact ⟨u, .first hu, hmem⟩
    · obtain ⟨u, hu, hmem⟩ := ihSecond hv
      exact ⟨u, .second hu, hmem⟩
  | group inner ih =>
    intro v from_ hv
    obtain ⟨u, hu, hmem⟩ := ih hv
    exact ⟨u, .group hu, hmem⟩
  | times inner n ih => exact ih.times n
  | declared source inner ih =>
    intro v from_ hv
    obtain ⟨u, hu, hmem⟩ := ih hv
    exact ⟨u, .declared hu, hmem⟩

/-- A text is accepted just when it has the shape. -/
theorem accepts_iff {text : List Char} : a.accepts text = true ↔ Matches a text := by
  refine ⟨fun h => ?_, accepts_of_matches⟩
  unfold accepts at h
  rw [List.contains_iff_mem] at h
  obtain ⟨u, hu, hmem⟩ := retreats_rests a h
  rw [List.append_nil, List.mem_singleton] at hmem
  exact hmem ▸ hu

/-- Two digits are tried, and one more. -/
example : (Shape.seq (.times .digit (.between 1 2)) (.times .digit (.atLeast 2))).accepts
    ['1', '2', '3'] = true := by
  decide

end SerialNumbers.Shape
