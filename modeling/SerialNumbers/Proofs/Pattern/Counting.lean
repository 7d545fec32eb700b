/-
  SerialNumbers.Proofs.Pattern.Counting

  Different counters make different numbers.  Nothing but the counter's own
  tokens depends on it, as long as no condition asks for it; and each of these is
  the counter behind zeros, which gets no shorter as the counter grows.  So the
  parts of two numbers that are the same are the same one by one.  Main statement:
  with stock variables, a pattern that has a counter in its literal text makes no
  number twice (`Template.counter_eq_of_evaluate`).
-/
import SerialNumbers.Proofs.Pattern.Insertion
import SerialNumbers.Proofs.Pattern.Rendering

namespace SerialNumbers

open Pattern Text Time

/-! ## Stock variables -/

namespace Registry

/-- All variables are stock variables. -/
def IsStock (r : Registry) : Prop :=
  ∀ key v, r.byName.get? key = some v → v ∈ Stock.all

theorem IsStock.keepsToKeys {r : Registry} (h : r.IsStock) : r.KeepsToKeys :=
  fun key v hget => Stock.keepsToKeys (h key v hget)

theorem isStock_empty : empty.IsStock := by
  rintro key v ⟨⟩

theorem IsStock.withDefaults {r : Registry} (h : r.IsStock) : r.withDefaults.IsStock := by
  refine List.foldlRecOn Stock.all _ h ?_
  intro r hr v hv
  split
  · exact hr
  · intro key v' hget
    dsimp only at hget
    rw [Table.get?_insert] at hget
    split at hget
    · cases hget
      exact hv
    · exact hr key v' hget

end Registry

/-! ## Occasions that differ in their counter -/

/-- The same occasion with another counter. -/
def Occasion.counting (o : Occasion) {n : Int} (hn : Number.Writable n) : Occasion :=
  { o with counter := n, writable_counter := hn }

namespace Builtin

variable {b : Builtin} {o : Occasion} {n : Int} {hn : Number.Writable n}

theorem value_counting (h : b ≠ .counter) : b.value (o.counting hn) = b.value o := by
  cases b with
  | counter => exact absurd rfl h
  | _ => rfl

/-- No format shows the counter. -/
theorem text_counting {parameter : String} {f : Format} (h : b.format? parameter = some f) :
    f.text (o.counting hn) = f.text o := by
  have hall : ∀ e ∈ b.formats, e.2.text (o.counting hn) = e.2.text o := by
    cases b with
    | dayOfYear => exact List.forall_mem_nil _
    | counter => exact List.forall_mem_nil _
    | padding => exact List.forall_mem_nil _
    | _ =>
      simp only [formats, List.map_cons, List.map_nil, List.cons_append, List.nil_append,
        List.forall_mem_cons]
      repeat' apply And.intro
      all_goals first
        | rfl
        | exact List.forall_mem_nil _
  exact hall _ (Table.mem_of_lookup h)

end Builtin

namespace Scope

variable {r : Registry} {c : Context} {o : Occasion} {n : Int} {hn : Number.Writable n}
  {key name : String} {t : Token}

/-- A name of the engine that is not the counter's has another variable. -/
theorem named?_ne_counter {name : String} {b : Builtin} (h : Builtin.named? name = some b)
    (hname : name ≠ Builtin.counter.name) : b ≠ .counter ∧ b.name = name := by
  have hfound := Builtin.name_of_named? h
  refine ⟨?_, hfound⟩
  rintro rfl
  exact hname hfound.symm

/-- Scopes of two counters agree in all keys but the counter's. -/
theorem get?_counting (hc : c.Keyed) (hkey : upper key ≠ Builtin.counter.name) :
    (of r c (o.counting hn)).context.get? key = (of r c o).context.get? key := by
  cases hnamed : Builtin.named? (upper key) with
  | some b =>
    obtain ⟨hb, hname⟩ := named?_ne_counter hnamed hkey
    have hupper : upper key = upper b.name := by rw [b.upper_name, hname]
    rw [(of r c (o.counting hn)).get?_engine b hupper, (of r c o).get?_engine b hupper]
    exact congrArg (some <| Value.text ·) (Builtin.value_counting hb)
  | none =>
    have hfree : Builtin.isReserved (upper key) = false := by
      rw [Builtin.isReserved, hnamed]
      rfl
    rw [get?_of r _ hc hfree, get?_of r _ hc hfree]

/-- No other name than the counter's reads the counter. -/
theorem keysRead_ne_counter (hr : r.IsStock) (hname : upper name ≠ Builtin.counter.name) :
    ∀ key ∈ r.keysRead name, upper key ≠ Builtin.counter.name := by
  intro key hkey
  rcases Registry.mem_keysRead hkey with heq | ⟨v, -, hget, hdeclared⟩
  · rwa [heq]
  · intro heq
    have hfree := Stock.isReserved_key v (hr _ v hget) key hdeclared
    rw [heq, Builtin.isReserved_name] at hfree
    cases hfree

/-- A condition on another variable than the counter is decided alike. -/
theorem lookup_counting (hr : r.IsStock) (hc : c.Keyed)
    (hname : upper name ≠ Builtin.counter.name) :
    (of r c (o.counting hn)).lookup name = (of r c o).lookup name :=
  lookup_congr rfl hr.keepsToKeys fun key hkey =>
    get?_counting hc (keysRead_ne_counter hr hname key hkey)

/-- Another token than a counter stands for the same. -/
theorem resolve_counting (hr : r.IsStock) (hc : c.Keyed)
    (hupper : upper t.name = t.name) (hcounter : t.isCounter = false) :
    (of r c (o.counting hn)).resolve t = (of r c o).resolve t := by
  have hname : t.name ≠ Builtin.counter.name := by
    intro heq
    unfold Token.isCounter at hcounter
    rw [heq, beq_self_eq_true] at hcounter
    cases hcounter
  refine resolve_congr rfl hr.keepsToKeys hupper (fun b hnamed => ?_) fun key hkey =>
    get?_counting hc (keysRead_ne_counter hr (hupper.symm ▸ hname) key hkey)
  obtain ⟨hb, -⟩ := named?_ne_counter hnamed hname
  have hvalue : b.value (of r c (o.counting hn)).occasion = b.value (of r c o).occasion :=
    Builtin.value_counting hb
  have hne : (b == Builtin.counter) = false := by rwa [beq_eq_false_iff_ne]
  rw [resolveBuiltin_eq, resolveBuiltin_eq, hvalue]
  unfold formatBuiltin
  rw [hne]
  cases t.parameter with
  | none => rfl
  | some parameter =>
    dsimp only
    cases hformat : b.format? parameter with
    | none => rfl
    | some f =>
      show Except.ok (f.text (o.counting hn)) = Except.ok (f.text o)
      rw [Builtin.text_counting hformat]

/-- A counter token stands for the counter behind zeros. -/
theorem resolve_counter (hcounter : t.isCounter = true) {text : String}
    (h : (of r c o).resolve t = .ok text) :
    text = zeroFill (t.counterWidth o.padding) (toString o.counter) := by
  have hdated : (Piece.token t).isDated = true := by
    show (t.isCounter || t.field?.isSome) = true
    rw [hcounter, Bool.true_or]
  have hspelled := resolve_eq_ok hdated h
  unfold Piece.spelled at hspelled
  dsimp only at hspelled
  rw [Token.field?_of_isCounter hcounter] at hspelled
  exact String.toList_inj.mp hspelled

end Scope

/-! ## Parts that do not get shorter -/

section

variable {α β : Type} {f g : α → List β} {ps : List α}

theorem length_flatMap_le (hle : ∀ p ∈ ps, (f p).length ≤ (g p).length) :
    (ps.flatMap f).length ≤ (ps.flatMap g).length := by
  induction ps with
  | nil => exact Nat.le_refl _
  | cons p ps ih =>
    obtain ⟨hp, hps⟩ := List.forall_mem_cons.mp hle
    rw [List.flatMap_cons, List.flatMap_cons, List.length_append, List.length_append]
    exact Nat.add_le_add hp (ih hps)

/-- Where no part gets shorter, joined parts are the same only if they are so one by one. -/
theorem eq_of_flatMap_eq (hle : ∀ p ∈ ps, (f p).length ≤ (g p).length)
    (h : ps.flatMap f = ps.flatMap g) : ∀ p ∈ ps, f p = g p := by
  induction ps with
  | nil => exact List.forall_mem_nil _
  | cons p ps ih =>
    obtain ⟨hp, hps⟩ := List.forall_mem_cons.mp hle
    rw [List.flatMap_cons, List.flatMap_cons] at h
    have hlength := congrArg List.length h
    rw [List.length_append, List.length_append] at hlength
    have hrest := length_flatMap_le hps
    obtain ⟨hfirst, hjoined⟩ := List.append_inj h (by omega)
    exact List.forall_mem_cons.mpr ⟨hfirst, ih hps hjoined⟩

end

/-- A greater number has no fewer digits. -/
theorem Text.length_toString_mono {a b : Nat} (h : a ≤ b) :
    (toString a).toList.length ≤ (toString b).toList.length := by
  have hdigits (n : Nat) : (toString n).toList = Nat.toDigits 10 n := Nat.toList_repr
  rw [hdigits, hdigits]
  have hpositive : 0 < (Nat.toDigits 10 b).length := Nat.length_toDigits_pos
  have hbound := (Nat.length_toDigits_le_iff (by decide) hpositive).mp (Nat.le_refl _)
  exact (Nat.length_toDigits_le_iff (by decide) hpositive).mpr (Nat.lt_of_le_of_lt h hbound)

/-! ## Numbers -/

/-- What a piece stands for where the counter has a value: a counter token is spelled, any other
    token is what it stands for in a scope, if anything. -/
def Pattern.Piece.counted (s : Scope) (n : Int) : Piece → List Char
  | .char c => [c]
  | .token t =>
    if t.isCounter then (zeroFill (t.counterWidth s.occasion.padding) (toString n)).toList
    else ((s.resolve t).toOption.getD "").toList

/-- A greater counter makes no part shorter. -/
theorem Pattern.Piece.length_counted_mono (s : Scope) {a b : Nat} (h : a ≤ b) (p : Piece) :
    (p.counted s a).length ≤ (p.counted s b).length := by
  cases p with
  | char c => exact Nat.le_refl _
  | token t =>
    unfold counted
    dsimp only
    split
    · show (zeroFill _ (toString a)).toList.length ≤ (zeroFill _ (toString b)).toList.length
      rw [(isNumber_toString a).length_zeroFill, (isNumber_toString b).length_zeroFill]
      have hdigits := length_toString_mono h
      omega
    · exact Nat.le_refl _

/-- Where there is a counter, joined parts tell its value. -/
theorem Pattern.counter_eq_of_counted {s : Scope} {ps : List Piece} {a b : Nat}
    (h : ps.flatMap (Piece.counted s a) = ps.flatMap (Piece.counted s b)) {t : Token}
    (ht : .token t ∈ ps) (hcounter : t.isCounter = true) : a = b := by
  have hparts : Piece.counted s a (.token t) = Piece.counted s b (.token t) := by
    rcases Nat.le_total a b with hle | hle
    · exact eq_of_flatMap_eq (fun p _ => p.length_counted_mono s hle) h _ ht
    · exact (eq_of_flatMap_eq (fun p _ => p.length_counted_mono s hle) h.symm _ ht).symm
  unfold Piece.counted at hparts
  dsimp only at hparts
  rw [if_pos hcounter, if_pos hcounter] at hparts
  exact zeroFill_inj hparts

namespace Template

variable {r : Registry} {t : Template} {c : Context} {o : Occasion}

/-- Literal text stands in every expansion. -/
theorem infix_of_expandAll {lookup : String → Except Failure (Option String)}
    {segments : List Segment} {text expanded : List Char} (hmem : .literal text ∈ segments)
    (h : expandAll lookup segments = .ok expanded) : text <:+: expanded := by
  induction segments generalizing expanded with
  | nil => cases hmem
  | cons segment segments ih =>
    obtain ⟨first, hfirst, h⟩ := Except.bind_eq_ok.mp h
    obtain ⟨more, hmore, h⟩ := Except.bind_eq_ok.mp h
    cases h
    rcases List.mem_cons.mp hmem with rfl | hmem
    · cases hfirst
      exact (List.prefix_append _ _).isInfix
    · exact (ih hmem hmore).trans (List.suffix_append _ _).isInfix

/-- Without a condition on the counter, all counters are put into one expansion. -/
theorem evaluate_counted (hr : r.IsStock) (hc : c.Keyed)
    (htests : ∀ d choice, .conditional d ∈ t.segments → d.checked = .ok choice →
      upper choice.condition.subject ≠ Builtin.counter.name) {n : Int}
    {hn : Number.Writable n} {number : String}
    (h : t.evaluate (Scope.of r c (o.counting hn)) = .ok number) :
    ∃ expanded, t.expand (Scope.of r c o).lookup = .ok expanded ∧
      number.toList = (pieces expanded).flatMap (Piece.counted (Scope.of r c o) n) := by
  obtain ⟨expanded, hexpand, h⟩ := Except.bind_eq_ok.mp h
  obtain ⟨out, hout, h⟩ := Except.bind_eq_ok.mp h
  cases h
  refine ⟨expanded, ?_, ?_⟩
  · rw [← hexpand]
    unfold expand
    rw [expandAll_congr fun d choice hd hchecked =>
      (Scope.lookup_counting hr hc (htests d choice hd hchecked)).symm]
  · rw [String.toList_ofList]
    have hchar (ch : Char) : Piece.counted (Scope.of r c o) n (.char ch) = [ch] := rfl
    refine substitute_eq_ok hchar ?_ hout
    intro token cs htoken hresolve
    obtain ⟨text, htext, hcs⟩ := Except.bind_eq_ok.mp hresolve
    cases hcs
    unfold Piece.counted
    dsimp only
    cases hcounter : token.isCounter with
    | true =>
      rw [if_pos rfl, Scope.resolve_counter hcounter htext]
      rfl
    | false =>
      have hupper := upper_name_of_mem_tokens (mem_tokens htoken)
      rw [Scope.resolve_counting hr hc hupper hcounter] at htext
      rw [htext, if_neg Bool.false_ne_true]
      rfl

theorem scope_of_forMoment {moment : Moment} {counter padding : Int} {s : Scope}
    (h : Scope.forMoment r c moment counter padding = .ok s) :
    ∃ (seconds : Number.Double) (hpadding : Number.Writable padding)
      (hcounter : Number.Writable counter), moment.epochSeconds = .ok seconds ∧
      s = Scope.of r c (Occasion.counting
        ⟨moment, seconds, 0, padding, Number.writable_zero, hpadding⟩ hcounter) := by
  obtain ⟨o, ho, rfl⟩ := Scope.forMoment_eq_ok.mp h
  obtain ⟨hseconds, rfl, rfl, rfl⟩ := Occasion.at_eq_ok.mp ho
  exact ⟨o.seconds, o.writable_padding, o.writable_counter, hseconds, rfl⟩

/-- With stock variables, a pattern that has a counter in its literal text and whose conditions do
    not ask for the counter makes different numbers of different counters; and its counters are
    never cut off, but stand behind zeros. -/
theorem counter_eq_of_evaluate (hr : r.IsStock) {pattern : String}
    (hparse : Template.parse pattern = .ok t)
    (hliteral : ∃ text, .literal text ∈ t.segments ∧ ∃ token ∈ tokens text, token.isCounter = true)
    (htests : ∀ d choice, .conditional d ∈ t.segments → d.checked = .ok choice →
      upper choice.condition.subject ≠ Builtin.counter.name)
    (pairs : List (String × Value)) (moment : Moment) (padding : Int) {a b : Int} (ha : 0 ≤ a)
    (hb : 0 ≤ b) :
    let scope (counter : Int) := Scope.forMoment r (.ofPairs pairs) moment counter padding
    let evaluation (counter : Int) : Except Failure String := do
      let t ← Template.parse pattern
      t.evaluate (← scope counter)
    (∀ number, evaluation a = .ok number → evaluation b = .ok number → a = b) ∧
      ∀ s token text, scope a = .ok s → token.isCounter = true → s.resolve token = .ok text →
        ∃ zeros, text.toList = List.replicate zeros '0' ++ (toString a).toList := by
  intro scope evaluation
  have hkeyed := Context.keyed_ofPairs pairs
  obtain ⟨a, rfl⟩ := Int.eq_ofNat_of_zero_le ha
  obtain ⟨b, rfl⟩ := Int.eq_ofNat_of_zero_le hb
  refine ⟨?_, ?_⟩
  · intro number hfirst hsecond
    -- Both are made in scopes of one occasion, but for the counter.
    have hevaluate {n : Int} (h : evaluation n = .ok number) : ∃ s, scope n = .ok s ∧
        t.evaluate s = .ok number := by
      obtain ⟨t', hparse', h⟩ := Except.bind_eq_ok.mp h
      cases hparse.symm.trans hparse'
      exact Except.bind_eq_ok.mp h
    obtain ⟨s, hs, hfirst⟩ := hevaluate hfirst
    obtain ⟨s', hs', hsecond⟩ := hevaluate hsecond
    obtain ⟨seconds, _, _, hseconds, rfl⟩ := scope_of_forMoment hs
    obtain ⟨seconds', _, _, hseconds', rfl⟩ := scope_of_forMoment hs'
    cases hseconds.symm.trans hseconds'
    obtain ⟨expanded, hexpand, hspelled⟩ := evaluate_counted hr hkeyed htests hfirst
    obtain ⟨expanded', hexpand', hspelled'⟩ := evaluate_counted hr hkeyed htests hsecond
    cases hexpand.symm.trans hexpand'
    -- The counter of the literal text is among the tokens of the expansion.
    obtain ⟨text, htext, token, htoken, hcounter⟩ := hliteral
    have hpart : text <:+: expanded := by
      unfold expand at hexpand
      split at hexpand
      · cases hexpand
      · exact infix_of_expandAll htext hexpand
    obtain ⟨p, hp, hfound⟩ := List.mem_filterMap.mp (mem_tokens_within htoken hpart)
    cases p with
    | char ch => cases hfound
    | token token' =>
      cases hfound
      exact congrArg Int.ofNat (counter_eq_of_counted (hspelled.symm.trans hspelled') hp hcounter)
  · intro s token text hs hcounter hresolve
    obtain ⟨seconds, _, _, -, rfl⟩ := scope_of_forMoment hs
    rw [Scope.resolve_counter hcounter hresolve]
    exact ⟨_, (isNumber_toString a).toList_zeroFill _⟩

/-- Two counters side by side before a digit, and one more in a branch. -/
theorem counter_eq_of_evaluate_adjoined :
    let pattern := "\x7bCOUNTER:1\x7d\x7bCOUNTER\x7d1\x7b?CUSTOMER_TIER=VIP?-\x7bCOUNTER:2\x7d:X\x7d"
    let pairs := [("tier", Value.text "v")]
    let moment : Moment := ⟨Moment.midnight ⟨2024, 1, 1⟩, some .utc, false⟩
    let scope (counter : Int) :=
      Scope.forMoment Registry.empty.withDefaults (.ofPairs pairs) moment counter 0
    let evaluation (counter : Int) : Except Failure String := do
      let t ← Template.parse pattern
      t.evaluate (← scope counter)
    evaluation 1 = .ok "111-01" ∧ evaluation 11 = .ok "11111-11" ∧
      (∀ number, evaluation 1 = .ok number → evaluation 11 = .ok number → (1 : Int) = 11) ∧
      ∀ s token text, scope 1 = .ok s → token.isCounter = true → s.resolve token = .ok text →
        ∃ zeros, text.toList = List.replicate zeros '0' ++ (toString (1 : Int)).toList := by
  intro pattern pairs moment scope evaluation
  let d : Conditional := ⟨"CUSTOMER_TIER=VIP?-\x7bCOUNTER:2\x7d:X".toList, 21⟩
  let text := "\x7bCOUNTER:1\x7d\x7bCOUNTER\x7d1".toList
  let t : Template := ⟨pattern, [.literal text, .conditional d], none⟩
  have hparse : Template.parse pattern = .ok t := by decide +kernel
  have hliteral : ∃ text, .literal text ∈ t.segments ∧
      ∃ token ∈ tokens text, token.isCounter = true :=
    ⟨text, List.mem_cons_self, by decide +kernel⟩
  have htests : ∀ d choice, .conditional d ∈ t.segments → d.checked = .ok choice →
      upper choice.condition.subject ≠ Builtin.counter.name := by
    intro d' choice hmem hchecked
    have hd : d' = d := by simpa [t] using hmem
    subst hd
    have hchoice : d.checked = .ok ⟨"CUSTOMER_TIER=VIP".toList,
        ⟨"CUSTOMER_TIER", some (.equal, "VIP")⟩, "-\x7bCOUNTER:2\x7d".toList, ['X']⟩ := by
      decide +kernel
    cases hchoice.symm.trans hchecked
    decide +kernel
  have hcounts := counter_eq_of_evaluate Registry.isStock_empty.withDefaults hparse hliteral htests
    pairs moment 0 (a := 1) (b := 11) (by decide) (by decide)
  exact ⟨by decide +kernel, by decide +kernel, hcounts⟩

end Template
end SerialNumbers
