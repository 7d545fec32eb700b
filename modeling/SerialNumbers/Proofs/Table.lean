/-
  SerialNumbers.Proofs.Table

  The entries of tables.  In a table that was made by insertions no key comes
  twice (`Table.nodup_keys_put`), so that looking up a key finds just the entry
  that stands under it (`Table.get?_eq_some_iff`).  A table made of pairs has
  their keys in the order in which they came first (`Table.keys_ofList`), each
  with its last value (`Table.get?_ofList`).
-/
import Mathlib.Data.List.Induction
import SerialNumbers.Table

namespace SerialNumbers

namespace Table

variable {κ ν : Type} [BEq κ]

/-! ## Entries of tables -/

theorem mem_put {e : κ × ν} {k : κ} {v : ν} {l : List (κ × ν)} (h : e ∈ put k v l) :
    e = (k, v) ∨ e ∈ l := by
  induction l with
  | nil => exact .inl (List.mem_singleton.mp h)
  | cons e' rest ih =>
    unfold put at h
    split at h
    · exact (List.mem_cons.mp h).imp_right (List.mem_cons_of_mem _)
    · rcases List.mem_cons.mp h with h | h
      · exact .inr (h ▸ List.mem_cons_self)
      · exact (ih h).imp_right (List.mem_cons_of_mem _)

theorem nodup_keys_erase {t : Table κ ν} (h : t.keys.Nodup) (k : κ) : (t.erase k).keys.Nodup :=
  h.sublist (List.filter_sublist.map _)

theorem ofList_append (l l' : List (κ × ν)) :
    ofList (l ++ l') = l'.foldl (fun t e => t.insert e.1 e.2) (ofList l) := by
  unfold ofList
  exact List.foldl_append

theorem entries_ofList_append_singleton (l : List (κ × ν)) (e : κ × ν) :
    (ofList (l ++ [e])).entries = put e.1 e.2 (ofList l).entries := by
  rw [ofList_append]
  rfl

variable [LawfulBEq κ]

theorem mem_of_lookup {l : List (κ × ν)} {k : κ} {v : ν} (h : l.lookup k = some v) :
    (k, v) ∈ l := by
  obtain ⟨before, after, hl, -⟩ := List.lookup_eq_some_iff.mp h
  rw [hl]
  exact List.mem_append_right _ List.mem_cons_self

theorem nodup_keys_put {l : List (κ × ν)} (h : (l.map (·.1)).Nodup) (k : κ) (v : ν) :
    ((put k v l).map (·.1)).Nodup := by
  induction l with
  | nil => exact List.pairwise_singleton _ k
  | cons e rest ih =>
    obtain ⟨k', v'⟩ := e
    obtain ⟨hk', hrest⟩ := List.nodup_cons.mp h
    unfold put
    split
    · rename_i hk
      rw [beq_iff_eq] at hk
      rw [← hk]
      exact h
    · rename_i hk
      refine List.nodup_cons.mpr ⟨fun hmem => ?_, ih hrest⟩
      obtain ⟨e, he, hkey⟩ := List.mem_map.mp hmem
      rcases mem_put he with rfl | he
      · exact hk (beq_iff_eq.mpr hkey.symm)
      · exact hk' (hkey ▸ List.mem_map_of_mem he)

/-- Where the keys are distinct, what is looked up is what stands under the key. -/
theorem lookup_eq_some_iff_mem {l : List (κ × ν)} (h : (l.map (·.1)).Nodup) {k : κ} {v : ν} :
    l.lookup k = some v ↔ (k, v) ∈ l := by
  refine ⟨mem_of_lookup, fun hmem => ?_⟩
  induction l with
  | nil => exact absurd hmem List.not_mem_nil
  | cons e rest ih =>
    obtain ⟨k', v'⟩ := e
    obtain ⟨hk', hrest⟩ := List.nodup_cons.mp h
    rw [List.lookup_cons]
    rcases List.mem_cons.mp hmem with heq | hlater
    · cases heq
      rw [beq_self_eq_true]
    · have hne : k ≠ k' := by
        rintro rfl
        exact hk' (List.mem_map.mpr ⟨(k, v), hlater, rfl⟩)
      rw [beq_eq_false_iff_ne.mpr hne]
      exact ih hrest hlater

theorem get?_eq_some_iff {t : Table κ ν} (h : t.keys.Nodup) {k : κ} {v : ν} :
    t.get? k = some v ↔ (k, v) ∈ t.entries :=
  lookup_eq_some_iff_mem h

theorem nodup_keys_insert {t : Table κ ν} (h : t.keys.Nodup) (k : κ) (v : ν) :
    (t.insert k v).keys.Nodup :=
  nodup_keys_put h k v

/-- Where the keys are distinct, it does not matter from which end a key is looked for. -/
theorem lookup_reverse {l : List (κ × ν)} (h : (l.map (·.1)).Nodup) (k : κ) :
    l.reverse.lookup k = l.lookup k := by
  induction l with
  | nil => rfl
  | cons e rest ih =>
    obtain ⟨k', v⟩ := e
    obtain ⟨hk', hrest⟩ := List.nodup_cons.mp h
    rw [List.reverse_cons, List.lookup_append, ih hrest, List.lookup_cons, List.lookup_cons,
      List.lookup_nil]
    by_cases hk : k = k'
    · subst hk
      have hnone : rest.lookup k = none := by
        rw [List.lookup_eq_none_iff]
        intro e he
        rw [bne_iff_ne]
        intro hkey
        exact hk' (List.mem_map.mpr ⟨e, he, hkey.symm⟩)
      rw [hnone, beq_self_eq_true]
      rfl
    · rw [beq_eq_false_iff_ne.mpr hk]
      exact Option.or_none

/-! ## Keys that pass a test -/

/-- A key that does not pass a test is not missed where only those that do are kept. -/
theorem filter_put (p : κ → Bool) (k : κ) (v : ν) (l : List (κ × ν)) :
    (put k v l).filter (fun e => p e.1) =
      if p k then put k v (l.filter fun e => p e.1) else l.filter fun e => p e.1 := by
  induction l with
  | nil => cases hp : p k <;> simp [put, hp]
  | cons e rest ih =>
    obtain ⟨k', v'⟩ := e
    by_cases hk : k' = k
    · subst hk
      cases hp : p k' <;> simp [put, hp]
    · have hne : (k' == k) = false := beq_eq_false_iff_ne.mpr hk
      have hput : put k v ((k', v') :: rest) = (k', v') :: put k v rest := by
        rw [put, hne, if_neg Bool.false_ne_true]
      rw [hput, List.filter_cons, List.filter_cons, ih]
      cases hp' : p k' <;> cases hp : p k <;> simp [put, hne]

/-- A new key goes to the end. -/
theorem put_of_not_mem {k : κ} {l : List (κ × ν)} (h : k ∉ l.map (·.1)) (v : ν) :
    put k v l = l ++ [(k, v)] := by
  induction l with
  | nil => rfl
  | cons e rest ih =>
    obtain ⟨k', v'⟩ := e
    rw [List.map_cons, List.mem_cons, not_or] at h
    have hne : (k' == k) = false := beq_eq_false_iff_ne.mpr fun heq => h.1 heq.symm
    rw [put, hne, if_neg Bool.false_ne_true, ih h.2]
    rfl

/-! ## Tables of pairs -/

theorem get?_foldl_insert (l : List (κ × ν)) (t : Table κ ν) (k : κ) :
    (l.foldl (fun t e => t.insert e.1 e.2) t).get? k = (l.reverse.lookup k).or (t.get? k) := by
  induction l generalizing t with
  | nil => rfl
  | cons e rest ih =>
    obtain ⟨key, value⟩ := e
    rw [List.foldl_cons, ih, get?_insert, List.reverse_cons, List.lookup_append]
    cases rest.reverse.lookup k with
    | some v => rfl
    | none =>
      cases h : k == key with
      | true => simp [List.lookup_cons, h]
      | false => simp [List.lookup_cons, h]

/-- In a table made of pairs a key has its last value. -/
theorem get?_ofList (l : List (κ × ν)) (k : κ) : (ofList l).get? k = l.reverse.lookup k := by
  unfold ofList
  rw [get?_foldl_insert, get?_empty, Option.or_none]

theorem keys_put (k : κ) (v : ν) (l : List (κ × ν)) :
    (put k v l).map (·.1) = if k ∈ l.map (·.1) then l.map (·.1) else l.map (·.1) ++ [k] := by
  induction l with
  | nil => simp [put]
  | cons e rest ih =>
    by_cases hk : e.1 = k
    · simp [put, hk]
    · have hne : k ≠ e.1 := fun h => hk h.symm
      by_cases hmem : k ∈ rest.map (·.1) <;> simp_all [put]

/-- In a table made of pairs the keys stand where they came first. -/
theorem keys_ofList (l : List (κ × ν)) : (ofList l).keys = (l.map (·.1)).eraseDups := by
  -- The induction is from the end, where a pair is added last.
  induction l using List.reverseRecOn with
  | nil => rfl
  | append_singleton rest e ih =>
    have hkeys : (ofList rest).entries.map (·.1) = (rest.map (·.1)).eraseDups := ih
    unfold keys
    rw [entries_ofList_append_singleton, keys_put, hkeys, List.map_append, List.map_singleton,
      List.eraseDups_append]
    simp only [List.mem_eraseDups]
    by_cases hmem : e.1 ∈ rest.map (·.1) <;> simp [hmem, List.removeAll, List.eraseDups_cons]

/-- Pairs with different keys are the entries of a table as they are. -/
theorem entries_ofList {l : List (κ × ν)} (h : (l.map (·.1)).Nodup) : (ofList l).entries = l := by
  induction l using List.reverseRecOn with
  | nil => rfl
  | append_singleton rest e ih =>
    rw [List.map_append, List.map_singleton, List.nodup_append] at h
    obtain ⟨hrest, -, hdisjoint⟩ := h
    have hnew : e.1 ∉ rest.map (·.1) :=
      fun hmem => hdisjoint _ hmem _ (List.mem_singleton_self _) rfl
    rw [entries_ofList_append_singleton, ih hrest, put_of_not_mem hnew]

theorem ofList_of_nodup {l : List (κ × ν)} (h : (l.map (·.1)).Nodup) : ofList l = ⟨l⟩ :=
  congrArg mk (entries_ofList h)

end Table

end SerialNumbers
