/-
  SerialNumbers.Proofs.Context

  What contexts hold.  A key has its last value in any spelling
  (`Context.get?_ofPairs`), and the keys that a context shows differ in more than
  their spelling (`Context.Keyed`), so that it can be made again from what it
  shows.

  Main statement: a context made of a dictionary and keywords holds what these
  say, and neither it nor any context made from it loses anything on the way
  through a dictionary, where keys of different spellings are different
  (`Context.nothing_lost`).
-/
import Mathlib.Data.List.Nodup
import SerialNumbers.Context
import SerialNumbers.Proofs.Table

namespace SerialNumbers

open Text

namespace Context

/-! ## Contexts of pairs -/

/-- A pair that is added to a context is added to its table, under the upper-case key. -/
theorem items_ofPairs (pairs : List (String × Value)) :
    (ofPairs pairs).items = Table.ofList (pairs.map fun e => (upper e.1, e)) := by
  unfold ofPairs Table.ofList
  rw [List.foldl_map]
  exact (List.foldl_hom (fun c : Context => c.items) (fun _ _ => rfl)).symm

/-- A pair that is found under its spelling is found under its key. -/
theorem lookup_uppers (pairs : List (String × Value)) (key : String) :
    (pairs.map fun e => (upper e.1, e)).lookup key = pairs.find? fun e => key == upper e.1 := by
  induction pairs with
  | nil => rfl
  | cons e rest ih => rw [List.map_cons, List.lookup_cons, List.find?_cons, ih]

/-- In a context that is made of pairs the last pair stands under its upper-case key. -/
theorem get?_items_ofPairs (pairs : List (String × Value)) (key : String) :
    (ofPairs pairs).items.get? key = pairs.reverse.find? fun e => key == upper e.1 := by
  rw [items_ofPairs, Table.get?_ofList, ← List.map_reverse, lookup_uppers]

theorem nodup_uppers {pairs : List (String × Value)} (h : (pairs.map fun e => upper e.1).Nodup) :
    ((pairs.map fun e => (upper e.1, e)).map (·.1)).Nodup := by
  rwa [List.map_map]

/-- Keys that differ in more than their spelling differ. -/
theorem nodup_keys {pairs : List (String × Value)} (h : (pairs.map fun e => upper e.1).Nodup) :
    (pairs.map (·.1)).Nodup := by
  apply List.Nodup.of_map upper
  rwa [List.map_map]

/-- Pairs with keys that differ in more than their spelling make a context that shows them as
    they are. -/
theorem toPairs_ofPairs {pairs : List (String × Value)}
    (h : (pairs.map fun e => upper e.1).Nodup) : (ofPairs pairs).toPairs = pairs := by
  have hkeys := nodup_uppers h
  rw [toPairs, items_ofPairs, Table.values, Table.entries_ofList hkeys, List.map_map]
  exact List.map_id _

/-! ## The keys of a context -/

/-- The keys of a context are distinct, and each is the upper-case form of its spelling. -/
structure Keyed (c : Context) : Prop where
  nodup : (c.items.entries.map (·.1)).Nodup
  spelled : ∀ e ∈ c.items.entries, upper e.2.1 = e.1

theorem Keyed.set {c : Context} (h : c.Keyed) (key : String) (value : Value) :
    (c.set key value).Keyed := by
  refine ⟨Table.nodup_keys_put h.nodup _ _, fun e he => ?_⟩
  rcases Table.mem_put he with rfl | he
  · rfl
  · exact h.spelled e he

theorem keyed_ofPairs (pairs : List (String × Value)) : (ofPairs pairs).Keyed := by
  refine List.foldlRecOn (motive := Keyed) pairs _ ⟨List.nodup_nil, List.forall_mem_nil _⟩ ?_
  exact fun c hc e _ => hc.set e.1 e.2

theorem has_eq_isSome (c : Context) (key : String) : c.has key = (c.get? key).isSome := by
  unfold has get? Table.contains
  rw [Option.isSome_map]

/-- What a context shows differs in more than the spelling of keys. -/
theorem Keyed.map_upper_toPairs {c : Context} (h : c.Keyed) :
    (c.toPairs.map fun e => upper e.1) = c.items.keys := by
  unfold toPairs Table.values Table.keys
  rw [List.map_map]
  exact List.map_congr_left h.spelled

theorem Keyed.nodup_toPairs {c : Context} (h : c.Keyed) :
    (c.toPairs.map fun e => upper e.1).Nodup := by
  rw [h.map_upper_toPairs]
  exact h.nodup

/-- A context is made of what it shows. -/
theorem Keyed.ofPairs_toPairs {c : Context} (h : c.Keyed) : ofPairs c.toPairs = c := by
  have hentries : (c.toPairs.map fun e => (upper e.1, e)) = c.items.entries := by
    unfold toPairs Table.values
    rw [List.map_map]
    refine (List.map_congr_left fun e he => ?_).trans (List.map_id _)
    show (upper e.2.1, e.2) = e
    rw [h.spelled e he]
  have hitems : (ofPairs c.toPairs).items.entries = c.items.entries := by
    rw [items_ofPairs, hentries, Table.entries_ofList h.nodup]
  cases c with
  | mk items =>
    cases items with
    | mk entries => exact congrArg (fun l => Context.mk ⟨l⟩) hitems

/-- Where the keys differ in more than their spelling, one pair at most has a key. -/
theorem find?_reverse {pairs : List (String × Value)}
    (h : (pairs.map fun e => upper e.1).Nodup) (key : String) :
    (pairs.reverse.find? fun e => upper key == upper e.1) =
      pairs.find? fun e => upper key == upper e.1 := by
  have hkeys := nodup_uppers h
  rw [← lookup_uppers, ← lookup_uppers, List.map_reverse, Table.lookup_reverse hkeys]

theorem find?_of_mem {pairs : List (String × Value)}
    (h : (pairs.map fun e => upper e.1).Nodup) {e : String × Value} (he : e ∈ pairs) :
    (pairs.find? fun e' => upper e.1 == upper e'.1) = some e := by
  have hkeys := nodup_uppers h
  rw [← lookup_uppers, Table.lookup_eq_some_iff_mem hkeys]
  exact List.mem_map_of_mem he

/-- A key has the value that the context shows for it. -/
theorem Keyed.get?_eq {c : Context} (h : c.Keyed) (key : String) :
    c.get? key = (c.toPairs.find? fun e => upper key == upper e.1).map (·.2) := by
  conv_lhs => rw [← h.ofPairs_toPairs]
  rw [get?_ofPairs, find?_reverse h.nodup_toPairs]

/-! ## Contexts made of others -/

namespace Keyed

variable {c : Context}

theorem nodup_dropKeys (h : c.Keyed) (uppers : List String) :
    ((c.dropKeys uppers).map fun e => upper e.1).Nodup :=
  h.nodup_toPairs.sublist (List.filter_sublist.map _)

/-- Dropping keys takes out their values and no others. -/
theorem get?_dropKeys (h : c.Keyed) (uppers : List String) (key : String) :
    (ofPairs (c.dropKeys uppers)).get? key =
      if uppers.contains (upper key) then none else c.get? key := by
  have hfind : (c.dropKeys uppers).find? (fun e => upper key == upper e.1) =
      c.toPairs.find? fun e => !uppers.contains (upper key) && upper key == upper e.1 := by
    rw [dropKeys, List.find?_filter]
    refine congrArg (List.find? · c.toPairs) (funext fun e => ?_)
    -- A pair with the key is dropped just when the key is.
    cases heq : upper key == upper e.1 with
    | true => simp [beq_iff_eq.mp heq]
    | false => simp
  rw [get?_ofPairs, find?_reverse (h.nodup_dropKeys uppers), hfind, h.get?_eq]
  cases uppers.contains (upper key) <;> simp

/-- The caller's value of a key is found unless the engine has one. -/
theorem get?_withBuiltins (h : c.Keyed) (builtins : List (String × Value)) (key : String) :
    (c.withBuiltins builtins).get? key =
      ((builtins.reverse.find? fun e => upper key == upper e.1).map (·.2)).or (c.get? key) := by
  unfold withBuiltins
  rw [get?_ofPairs, List.reverse_append, List.find?_append]
  cases hfound : builtins.reverse.find? fun e => upper key == upper e.1 with
  | some e => rfl
  | none =>
    have hkept : (builtins.map fun e => upper e.1).contains (upper key) = false := by
      rw [Bool.eq_false_iff, ne_eq, List.contains_iff_mem, List.mem_map]
      rintro ⟨e, he, hkey⟩
      have hne := List.find?_eq_none.mp hfound e (List.mem_reverse.mpr he)
      rw [beq_iff_eq] at hne
      exact hne hkey.symm
    rw [Option.none_or, Option.map_none, Option.none_or, ← get?_ofPairs, h.get?_dropKeys, hkept]
    rfl

theorem nodup_withBuiltins (h : c.Keyed) {builtins : List (String × Value)}
    (hnodup : (builtins.map fun e => upper e.1).Nodup) :
    ((c.dropKeys (builtins.map fun e => upper e.1) ++ builtins).map fun e => upper e.1).Nodup := by
  rw [List.map_append, List.nodup_append]
  refine ⟨h.nodup_dropKeys _, hnodup, ?_⟩
  rintro _ hleft key hengine rfl
  obtain ⟨e, he, rfl⟩ := List.mem_map.mp hleft
  have hfree := (List.mem_filter.mp he).2
  rw [List.contains_iff_mem.mpr hengine] at hfree
  cases hfree

/-- Where the keys of the engine differ in more than spelling, a context shows what is left of the
    caller's entries, and then the engine's. -/
theorem toPairs_withBuiltins (h : c.Keyed) {builtins : List (String × Value)}
    (hnodup : (builtins.map fun e => upper e.1).Nodup) :
    (c.withBuiltins builtins).toPairs =
      c.dropKeys (builtins.map fun e => upper e.1) ++ builtins :=
  toPairs_ofPairs (h.nodup_withBuiltins hnodup)

/-- A context without a key agrees with the whole one beside that key. -/
theorem get?_without (h : c.Keyed) {key name : String} (hne : upper name ≠ upper key) :
    (c.without [key]).get? name = c.get? name := by
  unfold without
  rw [h.get?_dropKeys, if_neg]
  rwa [List.contains_iff_mem, List.map_singleton, List.mem_singleton]

end Keyed

/-! ## What pairs say -/

/-- The pair is the last one of the list that has its key, in any spelling. -/
def IsLast (pairs : List (String × Value)) (e : String × Value) : Prop :=
  ∃ before after, pairs = before ++ e :: after ∧ ∀ e' ∈ after, upper e'.1 ≠ upper e.1

theorem find?_reverse_eq_some_iff {pairs : List (String × Value)} {key : String}
    {e : String × Value} :
    (pairs.reverse.find? fun e => key == upper e.1) = some e ↔
      IsLast pairs e ∧ upper e.1 = key := by
  rw [List.find?_eq_some_iff_append, beq_iff_eq]
  constructor
  · rintro ⟨rfl, before, after, hpairs, hlater⟩
    refine ⟨⟨after.reverse, before.reverse, ?_, fun e' he' hsame => ?_⟩, rfl⟩
    · rw [← List.reverse_reverse pairs, hpairs]
      simp
    · have hother := hlater e' (List.mem_reverse.mp he')
      simp [hsame] at hother
  · rintro ⟨⟨before, after, rfl, hlater⟩, rfl⟩
    refine ⟨rfl, after.reverse, before.reverse, by simp, fun e' he' => ?_⟩
    have hother := hlater e' (List.mem_reverse.mp he')
    simpa using hother.symm

/-- The context holds what the pairs say: for every spelling of a key the value of the last pair
    that has it, each key in its last spelling, and all of them in the order in which they first
    came. -/
structure Holds (c : Context) (pairs : List (String × Value)) : Prop where
  get : ∀ key value, c.get? key = some value ↔
    ∃ e, IsLast pairs e ∧ upper e.1 = upper key ∧ e.2 = value
  absent : ∀ key, c.get? key = none ↔ ∀ e ∈ pairs, upper e.1 ≠ upper key
  has : ∀ key, c.has key = true ↔ ∃ e ∈ pairs, upper e.1 = upper key
  order : (c.toPairs.map fun e => upper e.1) = (pairs.map fun e => upper e.1).eraseDups
  spelled : ∀ e ∈ c.toPairs, IsLast pairs e

theorem holds_ofPairs (pairs : List (String × Value)) : (ofPairs pairs).Holds pairs := by
  have hkeyed := keyed_ofPairs pairs
  have habsent (key : String) : (ofPairs pairs).get? key = none ↔
      ∀ e ∈ pairs, upper e.1 ≠ upper key := by
    rw [get?_ofPairs, Option.map_eq_none_iff, List.find?_eq_none]
    simp only [List.mem_reverse, beq_iff_eq]
    exact forall₂_congr fun e _ => not_congr eq_comm
  refine ⟨?_, habsent, ?_, ?_, ?_⟩
  · intro key value
    rw [get?_ofPairs, Option.map_eq_some_iff]
    simp only [find?_reverse_eq_some_iff, and_assoc]
  · intro key
    rw [has_eq_isSome, Option.isSome_iff_ne_none, ne_eq, habsent]
    simp
  · rw [hkeyed.map_upper_toPairs, items_ofPairs, Table.keys_ofList, List.map_map]
    rfl
  · intro e he
    obtain ⟨entry, hentry, rfl⟩ := List.mem_map.mp he
    have hfound := (Table.get?_eq_some_iff hkeyed.nodup).mpr hentry
    rw [get?_items_ofPairs] at hfound
    exact (find?_reverse_eq_some_iff.mp hfound).1

/-- A key that is spelled in three ways, one of them longer than the others. -/
example : (ofPairs [("straße", .whole 1), ("Tier", .whole 2), ("STRASSE", .whole 3),
    ("Strasse", .whole 4)]).toPairs = [("Strasse", .whole 4), ("Tier", .whole 2)] := by
  rfl

/-! ## Through a dictionary and back -/

/-- The context as a dictionary, in which keys of different spellings are different. -/
def toDict (c : Context) : Table String Value :=
  Table.ofList c.toPairs

/-- The dictionary without the keys that have one of some upper-case forms. -/
def remaining (c : Context) (uppers : List String) : Table String Value :=
  c.toDict.filter fun key _ => !uppers.contains (upper key)

/-- What is left of the dictionary beside the keys of the engine, updated with their values. -/
def overlaid (c : Context) (builtins : List (String × Value)) : Table String Value :=
  builtins.foldl (fun t e => t.insert e.1 e.2) (c.remaining (builtins.map fun e => upper e.1))

/-- Nothing of a context is lost on the way through a dictionary. -/
structure Rebuilds (c : Context) : Prop where
  /-- No entry takes the place of another in the dictionary. -/
  shown : c.toDict.entries = c.toPairs
  same : ofPairs c.toDict.entries = c
  withBuiltins : ∀ builtins, (builtins.map fun e => upper e.1).Nodup →
    c.withBuiltins builtins = ofPairs (c.overlaid builtins).entries ∧
    ∀ key, (∀ e ∈ builtins, upper e.1 = upper key →
        (c.withBuiltins builtins).get? key = some e.2) ∧
      ((∀ e ∈ builtins, upper e.1 ≠ upper key) →
        (c.withBuiltins builtins).get? key = c.get? key)
  without : ∀ keys, c.without keys = ofPairs (c.remaining (keys.map upper)).entries ∧
    (c.without keys).toPairs =
      c.toPairs.filter (fun e => !keys.any fun key => upper key == upper e.1) ∧
    ∀ key, (c.without keys).get? key =
      if keys.any fun k => upper k == upper key then none else c.get? key

namespace Keyed

variable {c : Context}

theorem entries_toDict (h : c.Keyed) : c.toDict.entries = c.toPairs :=
  Table.entries_ofList (nodup_keys h.nodup_toPairs)

theorem entries_remaining (h : c.Keyed) (uppers : List String) :
    (c.remaining uppers).entries = c.dropKeys uppers := by
  rw [remaining, Table.filter, h.entries_toDict]
  rfl

/-- No value of the engine takes the place of another key than its own. -/
theorem entries_overlaid (h : c.Keyed) {builtins : List (String × Value)}
    (hnodup : (builtins.map fun e => upper e.1).Nodup) :
    (c.overlaid builtins).entries = c.dropKeys (builtins.map fun e => upper e.1) ++ builtins := by
  have hdropped := h.nodup_dropKeys (builtins.map fun e => upper e.1)
  -- What is left is a table of pairs, so updating it is adding pairs to them.
  have hremaining : c.remaining (builtins.map fun e => upper e.1) =
      Table.ofList (c.dropKeys (builtins.map fun e => upper e.1)) := by
    rw [Table.ofList_of_nodup (nodup_keys hdropped), ← h.entries_remaining]
  have hboth := h.nodup_withBuiltins hnodup
  rw [overlaid, hremaining, ← Table.ofList_append, Table.entries_ofList (nodup_keys hboth)]

theorem rebuilds (h : c.Keyed) : c.Rebuilds where
  shown := h.entries_toDict
  same := by rw [h.entries_toDict, h.ofPairs_toPairs]
  withBuiltins := by
    intro builtins hnodup
    refine ⟨?_, fun key => ⟨fun e he hkey => ?_, fun hother => ?_⟩⟩
    · rw [h.entries_overlaid hnodup]
      rfl
    · rw [h.get?_withBuiltins, find?_reverse hnodup, ← hkey, find?_of_mem hnodup he]
      rfl
    · have hnone : (builtins.reverse.find? fun e => upper key == upper e.1) = none := by
        rw [List.find?_eq_none]
        intro e he hkey
        exact hother e (List.mem_reverse.mp he) (beq_iff_eq.mp hkey).symm
      rw [h.get?_withBuiltins, hnone]
      rfl
  without := by
    intro keys
    have hcontains (key : String) :
        (keys.map upper).contains key = keys.any fun k => upper k == key := by
      rw [Bool.eq_iff_iff]
      simp
    refine ⟨?_, ?_, fun key => ?_⟩
    · rw [h.entries_remaining]
      rfl
    · simp only [← hcontains]
      exact toPairs_ofPairs (h.nodup_dropKeys _)
    · rw [← hcontains]
      exact h.get?_dropKeys _ key

end Keyed

/-! ## Chains of changes -/

/-- What can be made of a context. -/
inductive Change where
  | withBuiltins (builtins : List (String × Value))
  | without (keys : List String)

def Change.apply (c : Context) : Change → Context
  | withBuiltins builtins => c.withBuiltins builtins
  | without keys => c.without keys

/-- A change makes a context of pairs. -/
theorem Change.keyed_apply (c : Context) (change : Change) : (change.apply c).Keyed := by
  cases change with
  | withBuiltins builtins => exact keyed_ofPairs _
  | without keys => exact keyed_ofPairs _

theorem Keyed.foldl_apply {c : Context} (h : c.Keyed) (changes : List Change) :
    (changes.foldl Change.apply c).Keyed :=
  List.foldlRecOn changes _ h fun c _ change _ => change.keyed_apply c

/-- The context of a dictionary and keywords holds what they say, and it and whatever is made from
    it step by step lose nothing on the way through a dictionary. -/
theorem nothing_lost (dictionary keywords : List (String × Value)) (changes : List Change) :
    (ofPairs (dictionary ++ keywords)).Holds (dictionary ++ keywords) ∧
      (changes.foldl Change.apply (ofPairs (dictionary ++ keywords))).Rebuilds :=
  ⟨holds_ofPairs _, ((keyed_ofPairs _).foldl_apply changes).rebuilds⟩

end Context

end SerialNumbers
