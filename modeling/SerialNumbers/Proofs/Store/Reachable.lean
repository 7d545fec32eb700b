/-
  SerialNumbers.Proofs.Store.Reachable

  The stores that operations lead to.  Main statement: every one of them is
  sound (`Store.Reachable.sound`): rows stand under their own keys, no two rows
  have one id and the next id is greater than all, entries stand in the order
  of their numbers and the next number is greater than all, and no lock is
  held.
-/
import SerialNumbers.Proofs.Store.Operation

namespace SerialNumbers

open Time

namespace Store

/-- A store that is reached by one client, whatever it did and whenever. -/
inductive Reachable : Store → Prop where
  | new (timeout : Int) (clock : Moment) : Reachable (.new .memory timeout clock)
  /-- The clock shows another time. -/
  | wait {s : Store} (clock : Moment) (before : Reachable s) : Reachable { s with clock }
  | run {s : Store} (i : Issuer) (op : Operation) (before : Reachable s) :
    Reachable (op.run i s).2

/-- Rows stand under their own keys and have ids of their own, which were given out. -/
structure RowsSound (s : Store) : Prop where
  keyed : ∀ {key row}, s.row? key = some row → row.key = key
  identified : ∀ {key row}, s.row? key = some row → ∃ n, row.id = some n ∧ n < s.nextId
  distinct : ∀ {key key' row row'}, s.row? key = some row → s.row? key' = some row' →
    row.id = row'.id → key = key'

/-- Entries have numbers that were given out, and stand in their order. -/
structure LogSound (s : Store) : Prop where
  numbered : ∀ e ∈ s.entries, ∃ n, e.id = some n ∧ n < s.nextEntryId
  ordered : s.entries.Pairwise fun a b => a.id.getD 0 < b.id.getD 0

structure Sound (s : Store) : Prop where
  memory : s.backing = .memory
  rows : s.RowsSound
  log : s.LogSound
  free : s.held = []

/-! ## Rows -/

/-- What may be put in the place of a key: nothing, the same sequence again, or a new one
    where there is none. -/
inductive Fits (s : Store) (key : Key) : Option Sequence → Nat → Prop where
  | gone : Fits s key none 0
  | kept {old row : Sequence} (read : s.row? key = some old) (same : old.SameIdentity row) :
    Fits s key (some row) 0
  | made {row : Sequence} (free : s.row? key = none) (keyed : row.key = key)
    (fresh : row.id = some s.nextId) : Fits s key (some row) 1

/-- A row of the store after a change was in its place before, but for its counter and its
    configuration, or is a new one. -/
theorem Changed.row?_cases {s s' : Store} {key : Key} {row : Option Sequence}
    {added : List LogEntry} {made : Nat} (h : s.Changed key row added made s')
    (hfits : s.Fits key row made) {k : Key} {r : Sequence} (hr : s'.row? k = some r) :
    (∃ old, s.row? k = some old ∧ old.SameIdentity r) ∨
      (k = key ∧ made = 1 ∧ s.row? key = none ∧ r.key = key ∧ r.id = some s.nextId) := by
  rw [h.row?] at hr
  by_cases hk : k == key
  · rw [if_pos hk] at hr
    have hkey : k = key := eq_of_beq hk
    subst hkey
    cases hfits with
    | gone => cases hr
    | kept hread hsame =>
      cases hr
      exact .inl ⟨_, hread, hsame⟩
    | made hfree hkeyed hfresh =>
      cases hr
      exact .inr ⟨rfl, rfl, hfree, hkeyed, hfresh⟩
  · rw [if_neg hk] at hr
    exact .inl ⟨r, hr, r.sameIdentity_refl⟩

theorem RowsSound.changed {s s' : Store} {key : Key} {row : Option Sequence}
    {added : List LogEntry} {made : Nat} (hs : s.RowsSound) (h : s.Changed key row added made s')
    (hfits : s.Fits key row made) : s'.RowsSound := by
  have hold {k : Key} {r old : Sequence} (hread : s.row? k = some old)
      (hsame : old.SameIdentity r) : ∃ n, r.id = some n ∧ n < s.nextId := by
    obtain ⟨n, hid, hlt⟩ := hs.identified hread
    exact ⟨n, hsame.id.trans hid, hlt⟩
  refine ⟨?_, ?_, ?_⟩
  · intro k r hr
    rcases h.row?_cases hfits hr with ⟨old, hread, hsame⟩ | ⟨rfl, -, -, hkeyed, -⟩
    · rw [hsame.key, hs.keyed hread]
    · exact hkeyed
  · intro k r hr
    rw [h.nextId]
    rcases h.row?_cases hfits hr with ⟨old, hread, hsame⟩ | ⟨-, hmade, -, -, hfresh⟩
    · obtain ⟨n, hid, hlt⟩ := hold hread hsame
      exact ⟨n, hid, by omega⟩
    · exact ⟨s.nextId, hfresh, by omega⟩
  · intro k k' r r' hr hr' hid
    -- A new id is greater than all that are in the store.
    rcases h.row?_cases hfits hr with ⟨old, hread, hsame⟩ | ⟨hk, -, -, -, hfresh⟩
    · rcases h.row?_cases hfits hr' with ⟨old', hread', hsame'⟩ | ⟨hk', -, -, -, hfresh'⟩
      · refine hs.distinct hread hread' ?_
        rw [← hsame.id, ← hsame'.id]
        exact hid
      · obtain ⟨n, hn, hlt⟩ := hold hread hsame
        rw [hn, hfresh', Option.some.injEq] at hid
        omega
    · rcases h.row?_cases hfits hr' with ⟨old', hread', hsame'⟩ | ⟨hk', -, -, -, hfresh'⟩
      · obtain ⟨n, hn, hlt⟩ := hold hread' hsame'
        rw [hn, hfresh, Option.some.injEq] at hid
        omega
      · rw [hk, hk']

/-! ## The log -/

theorem LogSound.changed {s s' : Store} {key : Key} {row : Option Sequence}
    {added : List LogEntry} {made : Nat} (hs : s.LogSound) (h : s.Changed key row added made s') :
    s'.LogSound := by
  refine ⟨?_, ?_⟩
  · intro e he
    rw [h.entries, List.mem_append] at he
    rw [h.nextEntryId]
    rcases he with he | he
    · obtain ⟨n, hid, hlt⟩ := hs.numbered e he
      exact ⟨n, hid, by omega⟩
    · obtain ⟨n, hid, -, hlt⟩ := mem_numbered he
      exact ⟨n, hid, hlt⟩
  · rw [h.entries, List.pairwise_append]
    refine ⟨hs.ordered, ordered_numbered _ _, ?_⟩
    intro a ha b hb
    obtain ⟨n, hid, hlt⟩ := hs.numbered a ha
    obtain ⟨m, hid', hle, -⟩ := mem_numbered hb
    rw [hid, hid']
    show n < m
    omega

/-! ## Every reachable store -/

theorem Sound.changed {s s' : Store} {key : Key} {row : Option Sequence} {added : List LogEntry}
    {made : Nat} (hs : s.Sound) (h : s.Changed key row added made s')
    (hfits : s.Fits key row made) : s'.Sound :=
  ⟨h.backing.trans hs.memory, hs.rows.changed h hfits, hs.log.changed h, h.held.trans hs.free⟩

theorem Sound.of_sameRecords {s s' : Store} (hs : s.Sound) (h : s.SameRecords s') : s'.Sound := by
  refine ⟨h.backing.trans hs.memory, ⟨?_, ?_, ?_⟩, ⟨?_, ?_⟩, h.held.trans hs.free⟩
  · intro key row hr
    rw [h.row?] at hr
    exact hs.rows.keyed hr
  · intro key row hr
    rw [h.row?] at hr
    rw [h.nextId]
    exact hs.rows.identified hr
  · intro key key' row row' hr hr'
    rw [h.row?] at hr hr'
    exact hs.rows.distinct hr hr'
  · rw [h.entries, h.nextEntryId]
    exact hs.log.numbered
  · rw [h.entries]
    exact hs.log.ordered

theorem row?_new (backing : Backing) (timeout : Int) (clock : Moment) (key : Key) :
    (new backing timeout clock).row? key = none := rfl

theorem sound_new (timeout : Int) (clock : Moment) : (new .memory timeout clock).Sound := by
  refine ⟨rfl, ⟨?_, ?_, ?_⟩, ⟨?_, .nil⟩, rfl⟩
  · intro key row hr
    rw [row?_new] at hr
    cases hr
  · intro key row hr
    rw [row?_new] at hr
    cases hr
  · intro key key' row row' hr
    rw [row?_new] at hr
    cases hr
  · intro e he
    exact absurd he List.not_mem_nil

/-- What an operation puts in the place of a key fits there. -/
theorem Sound.effect {s s' : Store} (hs : s.Sound) {i : Issuer} {op : Operation} {answer : Answer}
    (h : op.Effect i s answer s') :
    ∃ key row added made, s.Changed key row added made s' ∧ s.Fits key row made := by
  cases h with
  | create hchecked hdrafted hfree hchanged => exact ⟨_, _, _, _, hchanged, .made hfree rfl rfl⟩
  | insert hfree hchanged => exact ⟨_, _, _, _, hchanged, .made hfree rfl rfl⟩
  | @edit e row done work s' hprepared hread hworked hchanged =>
    have hkey := hs.rows.keyed hread
    rw [← hkey] at hread
    exact ⟨_, _, _, _, hchanged, .kept hread (e.makes hprepared hworked).sameIdentity⟩
  | delete hchanged => exact ⟨_, _, _, _, hchanged, .gone⟩
  | @append entry s' hchanged =>
    refine ⟨("", ""), _, _, _, hchanged ("", ""), ?_⟩
    cases hrow : s.row? ("", "") with
    | none => exact .gone
    | some row => exact .kept hrow row.sameIdentity_refl
  | @block key calls row s' hallowed hread hchanged =>
    have hkey := hs.rows.keyed hread
    exact ⟨_, _, _, _, hchanged hkey, .kept hread (Call.sameIdentity_changes _ _ _)⟩

/-- Whatever is done, and whether it fails or not, there is one change, and it fits its place. -/
theorem Sound.change {s : Store} (hs : s.Sound) (i : Issuer) (op : Operation) :
    ∃ key row added made, s.Changed key row added made (op.run i s).2 ∧ s.Fits key row made := by
  rcases op.run_cases i s with ⟨_, _, hsame⟩ | ⟨answer, _, heffect⟩
  · refine ⟨("", ""), _, _, _, hsame.changed ("", ""), ?_⟩
    cases hrow : s.row? ("", "") with
    | none => exact .gone
    | some row => exact .kept hrow row.sameIdentity_refl
  · exact hs.effect heffect

theorem Sound.run {s : Store} (hs : s.Sound) (i : Issuer) (op : Operation) :
    (op.run i s).2.Sound := by
  obtain ⟨key, row, added, made, hchanged, hfits⟩ := hs.change i op
  exact hs.changed hchanged hfits

theorem Reachable.sound {s : Store} (h : s.Reachable) : s.Sound := by
  induction h with
  | new timeout clock => exact sound_new timeout clock
  | wait clock before ih => exact ih.of_sameRecords ⟨rfl, rfl, rfl, rfl, rfl, rfl⟩
  | run i op before ih => exact ih.run i op

end Store

end SerialNumbers
