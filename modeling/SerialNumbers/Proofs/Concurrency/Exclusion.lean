/-
  SerialNumbers.Proofs.Concurrency.Exclusion

  One client at a key.  As long as the row of a key is not taken out its lock is
  not either, so all clients at the key have looked up one lock, and it is held
  by one of them at most.  Main statements: the invariant `Guarded` is kept by
  every step, with the keys that were taken out so far; while none was it is
  `Locked`, and under that no two clients are at one key (`Locked.eq_of_inside`).
-/
import SerialNumbers.Proofs.Concurrency.World

namespace SerialNumbers

open Time

namespace World

/-- The client is between taking and giving back the lock of a key. -/
def IsInside (w : World) (client : Nat) (key : Key) : Prop :=
  ∃ lock, (w.phase client).inside? = some (key, lock)

/-- The clients and their locks: what a client has looked up is the lock of its key; a client
    inside holds its lock; and no other client inside has the same one. -/
structure Locked (w : World) : Prop where
  table : ∀ {c key lock}, (w.phase c).lock? = some (key, lock) →
    w.store.locks.get? key = some lock
  held : ∀ {c key lock}, (w.phase c).inside? = some (key, lock) → lock ∈ w.store.held
  alone : ∀ {c c' key key' lock}, (w.phase c).inside? = some (key, lock) →
    (w.phase c').inside? = some (key', lock) → c = c'

/-- The same after keys were taken out: only at other keys what a client has looked up is the
    lock of its key. -/
structure Guarded (gone : List Key) (w : World) : Prop where
  table : ∀ {c key lock}, key ∉ gone → (w.phase c).lock? = some (key, lock) →
    w.store.locks.get? key = some lock
  held : ∀ {c key lock}, (w.phase c).inside? = some (key, lock) → lock ∈ w.store.held
  alone : ∀ {c c' key key' lock}, (w.phase c).inside? = some (key, lock) →
    (w.phase c').inside? = some (key', lock) → c = c'

theorem Locked.guarded {w : World} (h : w.Locked) : w.Guarded [] :=
  ⟨fun _ => h.table, h.held, h.alone⟩

theorem Guarded.locked {w : World} (h : w.Guarded []) : w.Locked :=
  ⟨h.table List.not_mem_nil, h.held, h.alone⟩

theorem lock?_of_inside? {p : Phase} {key : Key} {lock : Nat} (h : p.inside? = some (key, lock)) :
    p.lock? = some (key, lock) := by
  cases p with
  | waiting job lock => cases h
  | _ => exact h

/-- Two clients at one key that was not taken out are the same. -/
theorem Guarded.eq_of_inside {gone : List Key} {w : World} (h : w.Guarded gone) {c c' : Nat}
    {key : Key} (hkey : key ∉ gone) (hc : w.IsInside c key) (hc' : w.IsInside c' key) :
    c = c' := by
  obtain ⟨lock, hin⟩ := hc
  obtain ⟨lock', hin'⟩ := hc'
  have htable := h.table hkey (lock?_of_inside? hin)
  have htable' := h.table hkey (lock?_of_inside? hin')
  rw [htable, Option.some.injEq] at htable'
  rw [← htable'] at hin'
  exact h.alone hin hin'

/-- Two clients at one key are the same. -/
theorem Locked.eq_of_inside {w : World} (h : w.Locked) {c c' : Nat} {key : Key}
    (hc : w.IsInside c key) (hc' : w.IsInside c' key) : c = c' :=
  h.guarded.eq_of_inside List.not_mem_nil hc hc'

theorem locked_start (s : Store) : (start s).Locked := by
  refine ⟨?_, ?_, ?_⟩
  · intro c key lock h
    cases h
  · intro c key lock h
    cases h
  · intro c c' key key' lock h
    cases h

/-- A client comes further, and keys may be taken out: its own lock must be right, and the
    others keep theirs. -/
theorem Guarded.put {gone gone' : List Key} {w : World} (h : w.Guarded gone)
    (hgone : gone ⊆ gone') {client : Nat} {p : Phase} {s : Store}
    (hlocks : ∀ {key lock}, key ∉ gone' → w.store.locks.get? key = some lock →
      s.locks.get? key = some lock)
    (htable : ∀ {key lock}, key ∉ gone' → p.lock? = some (key, lock) →
      s.locks.get? key = some lock)
    (hothers : ∀ {c key lock}, c ≠ client → (w.phase c).inside? = some (key, lock) →
      lock ∈ s.held)
    (hown : ∀ {key lock}, p.inside? = some (key, lock) → lock ∈ s.held ∧
      ∀ {c key'}, (w.phase c).inside? = some (key', lock) → c = client) :
    (w.put client p s).Guarded gone' := by
  refine ⟨?_, ?_, ?_⟩
  · intro c key lock hkey hc
    by_cases hne : c = client
    · subst hne
      rw [phase_put_self] at hc
      exact htable hkey hc
    · rw [phase_put_ne w p s hne] at hc
      exact hlocks hkey (h.table (fun hin => hkey (hgone hin)) hc)
  · intro c key lock hc
    by_cases hne : c = client
    · subst hne
      rw [phase_put_self] at hc
      exact (hown hc).1
    · rw [phase_put_ne w p s hne] at hc
      exact hothers hne hc
  · intro c c' key key' lock hc hc'
    by_cases hne : c = client
    -- The client that comes further is alone with its lock, and the others keep theirs.
    · subst hne
      rw [phase_put_self] at hc
      by_cases hne' : c' = c
      · exact hne'.symm
      · rw [phase_put_ne w p s hne'] at hc'
        exact ((hown hc).2 hc').symm
    · rw [phase_put_ne w p s hne] at hc
      by_cases hne' : c' = client
      · subst hne'
        rw [phase_put_self] at hc'
        exact (hown hc').2 hc
      · rw [phase_put_ne w p s hne'] at hc'
        exact h.alone hc hc'

section

variable {gone : List Key} {w : World}

/-- A client comes further with the lock that it has. -/
theorem Guarded.keep (h : w.Guarded gone) {client : Nat} {p p' : Phase} {s : Store}
    (hphase : w.phase client = p) (hlock : p'.lock? = p.lock?) (hinside : p'.inside? = p.inside?)
    (hlocks : s.locks = w.store.locks) (hheld : s.held = w.store.held) :
    (w.put client p' s).Guarded gone := by
  subst hphase
  refine h.put (fun _ hk => hk) ?_ ?_ ?_ ?_
  · intro key lock _ hkey
    rw [hlocks]
    exact hkey
  · intro key lock hkey hp
    rw [hlocks]
    rw [hlock] at hp
    exact h.table hkey hp
  · intro c key lock _ hc
    rw [hheld]
    exact h.held hc
  · intro key lock hp
    rw [hheld]
    rw [hinside] at hp
    exact ⟨h.held hp, fun hc => h.alone hc hp⟩

/-- A client comes further without a lock. -/
theorem Guarded.without (h : w.Guarded gone) {client : Nat} {p : Phase} (hlock : p.lock? = none)
    (hinside : p.inside? = none) : (w.put client p w.store).Guarded gone := by
  refine h.put (fun _ hk => hk) (fun _ hkey => hkey) ?_ (fun _ hc => h.held hc) ?_
  · intro key lock _ hp
    rw [hlock] at hp
    cases hp
  · intro key lock hp
    rw [hinside] at hp
    cases hp

/-- A client gives its lock back. -/
theorem Guarded.release (h : w.Guarded gone) {client lock : Nat} {key : Key}
    (hin : (w.phase client).inside? = some (key, lock)) :
    (w.put client .idle (w.store.release lock)).Guarded gone := by
  refine h.put (fun _ hk => hk) (fun _ hkey => hkey) (fun _ hp => nomatch hp) ?_
    (fun hp => nomatch hp)
  intro c key' lock' hne hc
  -- Nobody else is inside with this lock, so the others hold theirs still.
  have hlock : lock' ≠ lock := by
    intro heq
    rw [heq] at hc
    exact hne (h.alone hc hin)
  exact (List.mem_erase_of_ne hlock).mpr (h.held hc)

/-- A client takes out a row and the lock of its key. -/
theorem Guarded.erase (h : w.Guarded gone) {client lock : Nat} {key : Key}
    (hholding : w.phase client = .holding (.delete key) lock) :
    (w.put client (.leaving key lock) (w.store.removeRow key)).Guarded (gone ++ [key]) := by
  have hin : (w.phase client).inside? = some (key, lock) := by rw [hholding]; rfl
  have hne {key' : Key} (hkey : key' ∉ gone ++ [key]) : key' ≠ key := by
    rintro rfl
    exact hkey (List.mem_append_right gone List.mem_cons_self)
  refine h.put (List.subset_append_left gone [key]) ?_ ?_ (fun _ hc => h.held hc) ?_
  · intro key' lock' hkey hlock
    show (w.store.locks.erase key).get? key' = some lock'
    rw [Table.get?_erase, if_neg (by simpa using hne hkey)]
    exact hlock
  · intro key' lock' hkey hp
    cases hp
    exact absurd rfl (hne hkey)
  · intro key' lock' hp
    cases hp
    exact ⟨h.held hin, fun hc => h.alone hc hin⟩

end

theorem get?_lockOf_self (s : Store) (key : Key) :
    (s.lockOf key).2.locks.get? key = some (s.lockOf key).1 := by
  unfold Store.lockOf
  split
  · rename_i lock hlock
    exact hlock
  · show (s.locks.insert key s.nextLock).get? key = _
    rw [Table.get?_insert, if_pos (beq_self_eq_true key)]

theorem get?_lockOf {s : Store} {key k : Key} {lock : Nat} (h : s.locks.get? k = some lock) :
    (s.lockOf key).2.locks.get? k = some lock := by
  unfold Store.lockOf
  split
  · exact h
  · rename_i hnone
    -- A lock is made for a key that had none, so no other one is lost.
    show (s.locks.insert key s.nextLock).get? k = _
    rw [Table.get?_insert]
    split
    · rename_i hk
      rw [eq_of_beq hk, hnone] at h
      cases h
    · exact h

theorem locks_of_replaceRow {s s' : Store} {opened updated : Sequence}
    (h : s.replaceRow opened updated = .ok s') : s'.locks = s.locks ∧ s'.held = s.held := by
  obtain ⟨_, -, -, rfl⟩ := Store.replaceRow_eq_ok.mp h
  exact ⟨rfl, rfl⟩

theorem locks_of_insertRow {s s' : Store} {row stored : Sequence}
    (h : s.insertRow row = .ok (stored, s')) : s'.locks = s.locks ∧ s'.held = s.held := by
  obtain ⟨-, -, rfl⟩ := Store.insertRow_eq_ok.mp h
  exact ⟨rfl, rfl⟩

/-- Every step of an edit keeps the locks right. -/
theorem Guarded.editStep {gone : List Key} {w w' : World} (h : w.Guarded gone)
    (hstep : EditStep w w') : w'.Guarded gone := by
  cases hstep with
  | stay => exact h
  | call hidle hprepare => exact h.without rfl rfl
  | @lookUp client job hcalled =>
    -- Looking up a lock may add it to the table, but takes none out.
    refine h.put (fun _ hk => hk) (fun _ => get?_lockOf) ?_ ?_ (fun hp => nomatch hp)
    · intro key lock _ hp
      cases hp
      exact get?_lockOf_self w.store job.key
    · intro c key lock _ hc
      rw [Store.lockOf_held]
      exact h.held hc
  | @acquire client lock job hwaiting hfree =>
    refine h.put (fun _ hk => hk) (fun _ hkey => hkey) ?_ ?_ ?_
    · intro key lock' hkey hp
      apply h.table (c := client) hkey
      rw [hwaiting]
      exact hp
    · intro c key lock' _ hc
      exact List.mem_cons_of_mem lock (h.held hc)
    · intro key lock' hp
      cases hp
      refine ⟨List.mem_cons_self, ?_⟩
      intro c key' hc
      -- Whoever is inside with this lock holds it, but it is free.
      have hmem : w.store.isHeld lock = true := List.contains_iff_mem.mpr (h.held hc)
      rw [hfree] at hmem
      cases hmem
  | giveUp hwaiting => exact h.without rfl rfl
  | read hholding hrow => exact h.keep hholding rfl rfl rfl rfl
  | miss hholding hrow => exact h.keep hholding rfl rfl rfl rfl
  | work hopened hwork => exact h.keep hopened rfl rfl rfl rfl
  | fail hopened hwork => exact h.keep hopened rfl rfl rfl rfl
  | @commit client lock t clock row done s hready hreplace =>
    obtain ⟨hlocks, hheld⟩ := locks_of_replaceRow hreplace
    have hkeep : (w.put client (.writing t lock done.entries) s).Guarded gone :=
      h.keep hready rfl rfl hlocks hheld
    exact ⟨hkeep.table, hkeep.held, hkeep.alone⟩
  | refuse hready hreplace => exact h.keep hready rfl rfl rfl rfl
  | write hwriting => exact h.keep hwriting rfl rfl rfl rfl
  | finish hwriting => exact h.release (by rw [hwriting]; rfl)
  | leave hleaving => exact h.release (by rw [hleaving]; rfl)
  | tick clock => exact ⟨h.table, h.held, h.alone⟩

theorem Locked.step {w w' : World} (h : w.Locked) (hstep : EditStep w w') : w'.Locked :=
  (h.guarded.editStep hstep).locked

/-- Every step keeps the locks right at the keys that were not taken out. -/
theorem Guarded.step {gone : List Key} {w w' : World} {key : Option Key} (h : w.Guarded gone)
    (hstep : Step w key w') : w'.Guarded (gone ++ key.toList) := by
  cases hstep with
  | edit hedit =>
    rw [Option.toList_none, List.append_nil]
    exact h.editStep hedit
  | callDelete key hidle =>
    rw [Option.toList_none, List.append_nil]
    exact h.without rfl rfl
  | erase hholding => exact h.erase hholding
  | insert hinsert =>
    rw [Option.toList_none, List.append_nil]
    -- A new row is put in without a lock.
    obtain ⟨hlocks, hheld⟩ := locks_of_insertRow hinsert
    refine ⟨?_, ?_, h.alone⟩
    · intro c key lock hkey hc
      rw [hlocks]
      exact h.table hkey hc
    · intro c key lock hc
      rw [hheld]
      exact h.held hc

end World

end SerialNumbers
