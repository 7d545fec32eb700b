/-
  SerialNumbers.Proofs.Pattern.Influence

  What callers cannot reach.  An entry of a caller's context under a name of
  the engine, in whatever spelling, gives way to the engine's own before
  anything is looked up: a scope shows the caller's own entries in their order,
  then the engine's values, and nothing else (`Scope.toPairs_of`).

  Main statement: callers whose contexts differ under names of the engine only
  get the same numbers, the same previews, and the same answers to every token
  and every condition, also from registered variables
  (`Scope.independent_of_reserved`).
-/
import SerialNumbers.Pattern.Evaluation
import SerialNumbers.Proofs.Store.Action
import SerialNumbers.Proofs.Variable.Scope

namespace SerialNumbers

open Text Time

namespace Context

/-! ## Entries that are a caller's own -/

/-- The entries that are a caller's own: their keys are no names of the engine in any
    spelling. -/
def ownPairs (pairs : List (String × Value)) : List (String × Value) :=
  pairs.filter fun e => !Builtin.isReserved (upper e.1)

/-- The context with those entries only whose upper-case key passes a test. -/
def keep (p : String → Bool) (c : Context) : Context :=
  ⟨c.items.filter fun key _ => p key⟩

theorem keep_set (p : String → Bool) (c : Context) (key : String) (value : Value) :
    (c.set key value).keep p = if p (upper key) then (c.keep p).set key value else c.keep p := by
  have hput := Table.filter_put p (upper key) (key, value) c.items.entries
  unfold keep set Table.insert Table.filter
  rw [hput]
  split <;> rfl

/-- It makes no difference whether entries are left out before or after a context is made. -/
theorem keep_ofPairs (p : String → Bool) (pairs : List (String × Value)) :
    (ofPairs pairs).keep p = ofPairs (pairs.filter fun e => p (upper e.1)) := by
  have hfold (c : Context) : (pairs.foldl (fun c e => c.set e.1 e.2) c).keep p =
      (pairs.filter fun e => p (upper e.1)).foldl (fun c e => c.set e.1 e.2) (c.keep p) := by
    induction pairs generalizing c with
    | nil => rfl
    | cons e rest ih =>
      rw [List.foldl_cons, ih, keep_set, List.filter_cons]
      cases p (upper e.1) <;> rfl
  exact hfold empty

theorem Keyed.toPairs_keep {c : Context} (h : c.Keyed) (p : String → Bool) :
    (c.keep p).toPairs = c.toPairs.filter fun e => p (upper e.1) := by
  unfold toPairs keep Table.values Table.filter
  rw [List.filter_map]
  congr 1
  refine List.filter_congr fun e he => ?_
  rw [Function.comp_apply, h.spelled e he]

theorem ownPairs_toPairs (pairs : List (String × Value)) :
    ownPairs (ofPairs pairs).toPairs = (ofPairs (ownPairs pairs)).toPairs := by
  have hkeep := (keyed_ofPairs pairs).toPairs_keep fun key => !Builtin.isReserved key
  rw [keep_ofPairs] at hkeep
  exact hkeep.symm

end Context

namespace Scope

open Context

/-! ## What a scope shows -/

theorem map_upper_engineValues (o : Occasion) :
    ((engineValues o).map fun e => upper e.1) = Builtin.all.map (·.name) := by
  unfold engineValues Builtin.values
  rw [List.map_map, List.map_map]
  exact List.map_congr_left fun b _ => b.upper_name

/-- The engine has a value for exactly the names that are its own. -/
theorem contains_engineValues (o : Occasion) (key : String) :
    ((engineValues o).map fun e => upper e.1).contains key = Builtin.isReserved key := by
  rw [map_upper_engineValues, Bool.eq_iff_iff, List.contains_iff_mem]
  unfold Builtin.isReserved Builtin.named?
  rw [List.find?_isSome, List.mem_map]
  simp only [beq_iff_eq]

/-- What gives way to the engine's values is what is not a caller's own. -/
theorem dropKeys_engineValues (c : Context) (o : Occasion) :
    c.dropKeys ((engineValues o).map fun e => upper e.1) = ownPairs c.toPairs :=
  List.filter_congr fun e _ => by rw [contains_engineValues]

/-- A scope does not see entries that are not a caller's own. -/
theorem of_ownPairs (r : Registry) (pairs : List (String × Value)) (o : Occasion) :
    of r (ofPairs (ownPairs pairs)) o = of r (ofPairs pairs) o := by
  have htwice : ownPairs (ownPairs pairs) = ownPairs pairs := by
    unfold ownPairs
    rw [List.filter_filter]
    simp only [Bool.and_self]
  have hcontext : (ofPairs (ownPairs pairs)).withBuiltins (engineValues o) =
      (ofPairs pairs).withBuiltins (engineValues o) := by
    unfold withBuiltins
    rw [dropKeys_engineValues, dropKeys_engineValues, ownPairs_toPairs, ownPairs_toPairs, htwice]
  simp only [of, hcontext]

theorem forMoment_ownPairs (r : Registry) (pairs : List (String × Value)) (moment : Moment)
    (counter padding : Int) :
    forMoment r (ofPairs (ownPairs pairs)) moment counter padding =
      forMoment r (ofPairs pairs) moment counter padding := by
  unfold forMoment
  simp only [of_ownPairs]

/-- A scope shows the caller's own entries in their order, and then the engine's values. -/
theorem toPairs_of (r : Registry) (pairs : List (String × Value)) (o : Occasion) :
    (of r (ofPairs pairs) o).context.toPairs =
      (ofPairs (ownPairs pairs)).toPairs ++ engineValues o := by
  have hnodup : ((engineValues o).map fun e => upper e.1).Nodup := by
    rw [map_upper_engineValues]
    decide
  rw [← ownPairs_toPairs, ← dropKeys_engineValues]
  exact (keyed_ofPairs pairs).toPairs_withBuiltins hnodup

/-! ## What callers cannot reach -/

/-- Callers whose contexts become the same once all entries are taken out whose keys are names of
    the engine in some spelling get the same from every pattern, token and condition, and so do
    the variables that a registry adds: what these see is the caller's own entries and then the
    engine's values, and every spelling of a name of the engine finds the engine's value. -/
theorem independent_of_reserved (r : Registry) {pairs pairs' : List (String × Value)}
    (h : ofPairs (ownPairs pairs) = ofPairs (ownPairs pairs')) (moment : Moment)
    (counter padding : Int) :
    let scope := forMoment r (ofPairs pairs) moment counter padding
    let scope' := forMoment r (ofPairs pairs') moment counter padding
    (∀ pattern, (do
        let t ← Template.parse pattern
        t.evaluate (← scope)) = (do
        let t ← Template.parse pattern
        t.evaluate (← scope'))) ∧
    (∀ pattern, (do
        let t ← Template.parse pattern
        t.preview (← scope)) = (do
        let t ← Template.parse pattern
        t.preview (← scope'))) ∧
    (∀ token, (do (← scope).resolve token) = (do (← scope').resolve token)) ∧
    (∀ name, (do (← scope).lookup name) = (do (← scope').lookup name)) ∧
    (∀ (v : Variable) (parameter : Option String),
      (do v.resolveIn (← scope).context parameter) =
        (do v.resolveIn (← scope').context parameter)) ∧
    ∀ s, scope = .ok s → ∃ o, Occasion.at moment counter padding = .ok o ∧
      s.context.toPairs = (ofPairs (ownPairs pairs)).toPairs ++ engineValues o ∧
      ∀ (b : Builtin) (key : String), upper key = b.name →
        s.context.get? key = some (.text (b.value o)) := by
  intro scope scope'
  have hsame : scope = scope' := by
    show forMoment _ _ _ _ _ = forMoment _ _ _ _ _
    rw [← forMoment_ownPairs, h, forMoment_ownPairs]
  rw [hsame]
  refine ⟨fun _ => rfl, fun _ => rfl, fun _ => rfl, fun _ => rfl, fun _ _ => rfl, ?_⟩
  intro s hs
  rw [← hsame] at hs
  obtain ⟨o, ho, heq⟩ := Except.bind_eq_ok.mp hs
  cases heq
  refine ⟨o, ho, toPairs_of r pairs o, ?_⟩
  intro b key hkey
  exact get?_withBuiltins _ o b (hkey.trans b.upper_name.symm)

/-- A year, and seconds that are spelled with a long s, which nobody gets to see. -/
theorem independent_of_reserved_seconds :
    let pairs := [("year", Value.text "1999"), ("Tier", .text "vip"), ("\u017Fecond", .text "x")]
    let pairs' := [("Padding", Value.whole 9), ("Tier", .text "vip")]
    let moment : Moment := ⟨Moment.midnight ⟨2024, 1, 1⟩, some .utc, false⟩
    let pattern := "\x7b?Second=x?X:\x7bTIER\x7d\x7d-\x7bYEAR\x7d-\x7bSECOND\x7d-\x7bCOUNTER:3\x7d"
    let number (pairs : List (String × Value)) : Except Failure String := do
      let t ← Template.parse pattern
      t.evaluate (← forMoment .empty (ofPairs pairs) moment 7 5)
    ofPairs (ownPairs pairs) = ofPairs (ownPairs pairs') ∧ number pairs = number pairs' ∧
      number pairs' = .ok "vip-2024-00-007" := by
  intro pairs pairs' moment pattern number
  have hyear : Builtin.isReserved (upper "year") = true := by decide +kernel
  have htier : Builtin.isReserved (upper "Tier") = false := by decide +kernel
  have hsecond : Builtin.isReserved (upper "\u017Fecond") = true := by decide +kernel
  have hpadding : Builtin.isReserved (upper "Padding") = true := by decide +kernel
  have hown : ofPairs (ownPairs pairs) = ofPairs (ownPairs pairs') := by
    simp [pairs, pairs', ownPairs, hyear, htier, hsecond, hpadding]
  refine ⟨hown, ?_, by decide +kernel⟩
  exact (independent_of_reserved .empty hown moment 7 5).1 pattern

end Scope

end SerialNumbers
