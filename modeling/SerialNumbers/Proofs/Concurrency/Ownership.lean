/-
  SerialNumbers.Proofs.Concurrency.Ownership

  Which row a commit replaces.  Sequences are taken out and put in again while
  clients are at work, and a client that has waited for a lock may find that
  the key has another one by now.  Main statement: a commit replaces the very
  row that its client has read, if the key was not taken out since or was taken
  out once only (`World.commit_replaces_read`).  When it was taken out twice
  the commit may come onto a newer sequence (`World.deleted_row_returns`).
-/
import SerialNumbers.Proofs.Concurrency.Exclusion
import SerialNumbers.Proofs.Store.Reachable

namespace SerialNumbers

open Time

/-- The key that a client works at and the row that it has read there. -/
def Phase.read? : Phase → Option (Key × Sequence)
  | opened t _ row | ready t _ _ row _ => some (t.key, row)
  | _ => none

/-- What a client has read is of its key, and what it has made of it is the same sequence at a
    later version. -/
def Phase.Fits : Phase → Prop
  | opened t _ row => row.key = t.key
  | ready t _ _ row done =>
    row.key = t.key ∧ row.SameIdentity done.row ∧ row.version < done.row.version
  | _ => True

/-- The row of a key is the given one, or one at a later version. -/
def Store.Retains (s : Store) (key : Key) (row : Sequence) : Prop :=
  ∃ stored, s.row? key = some stored ∧ (stored = row ∨ row.version < stored.version)

/-- A row that is replaced at the version at which it was read is the row that was read. -/
theorem Store.Retains.row?_of_replaceRow {s s' : Store} {key : Key} {row updated : Sequence}
    (h : s.Retains key row) (hkey : row.key = key)
    (hreplace : s.replaceRow row updated = .ok s') : s.row? key = some row := by
  obtain ⟨stored, hstored, hcases⟩ := h
  obtain ⟨found, hfound, hversion, -⟩ := Store.replaceRow_eq_ok.mp hreplace
  rw [hkey, hstored, Option.some.injEq] at hfound
  subst hfound
  rcases hcases with rfl | hlt
  · exact hstored
  · omega

namespace World

/-! ## What a step does to a row -/

/-- What a step does to the row of a key: nothing, or it takes the row out, puts one in, or
    replaces it by one at a later version. -/
inductive Moves (key : Key) (gone : Option Key) : Option Sequence → Option Sequence → Prop where
  | same {r : Option Sequence} : Moves key gone r r
  | erased {r : Option Sequence} (hgone : gone = some key) : Moves key gone r none
  | inserted {row : Sequence} (keyed : row.key = key) : Moves key gone none (some row)
  | replaced {old row : Sequence} (keyed : row.key = key) (later : old.version < row.version) :
    Moves key gone (some old) (some row)

/-- Rows stand under their keys, and so does what clients have read. -/
structure Kept (w : World) : Prop where
  keyed : ∀ {key row}, w.store.row? key = some row → row.key = key
  fits : ∀ c, (w.phase c).Fits

theorem kept_start {s : Store} (hs : s.Reachable) : (start s).Kept :=
  ⟨hs.sound.rows.keyed, fun _ => trivial⟩

theorem fits_put {w : World} (h : ∀ c, (w.phase c).Fits) {client : Nat} {p : Phase} {s : Store}
    (hp : p.Fits) (c : Nat) : ((w.put client p s).phase c).Fits := by
  by_cases hne : c = client
  · subst hne
    rw [phase_put_self]
    exact hp
  · rw [phase_put_ne w p s hne]
    exact h c

section

variable {w w' : World} {gone : Option Key}

theorem Kept.moves (hk : w.Kept) (hstep : Step w gone w') (key : Key) :
    Moves key gone (w.store.row? key) (w'.store.row? key) := by
  cases hstep with
  | edit hedit =>
    cases hedit with
    | @lookUp client job hcalled =>
      show Moves key none _ ((w.store.lockOf job.key).2.row? key)
      unfold Store.row?
      rw [Store.lockOf_rows]
      exact .same
    | @commit client lock t clock row done s hready hreplace =>
      show Moves key none _ (s.row? key)
      obtain ⟨stored, hstored, hversion, -⟩ := Store.replaceRow_eq_ok.mp hreplace
      have hfits := hk.fits client
      rw [hready] at hfits
      obtain ⟨-, hsame, hlater⟩ := hfits
      rw [Store.row?_replaceRow hreplace]
      by_cases hkey : key = row.key
      · subst hkey
        rw [if_pos (beq_self_eq_true row.key), hstored]
        exact .replaced hsame.key (by omega)
      · rw [if_neg (by simpa using hkey)]
        exact .same
    | _ => exact .same
  | callDelete other hidle => exact .same
  | @erase client lock other hholding =>
    show Moves key (some other) _ ((w.store.removeRow other).row? key)
    rw [Store.row?_removeRow]
    by_cases hkey : key = other
    · subst hkey
      rw [if_pos (beq_self_eq_true key)]
      exact .erased rfl
    · rw [if_neg (by simpa using hkey)]
      exact .same
  | @insert row stored s hinsert =>
    show Moves key none _ (s.row? key)
    obtain ⟨hfree, hstored, -⟩ := Store.insertRow_eq_ok.mp hinsert
    rw [Store.row?_insertRow hinsert]
    by_cases hkey : key = row.key
    · subst hkey
      rw [if_pos (beq_self_eq_true row.key), hfree]
      refine .inserted ?_
      rw [hstored]
      rfl
    · rw [if_neg (by simpa using hkey)]
      exact .same

theorem Kept.step (hk : w.Kept) (hstep : Step w gone w') : w'.Kept := by
  refine ⟨?_, ?_⟩
  · intro key row hrow
    have hmoves := hk.moves hstep key
    rw [hrow] at hmoves
    generalize hold : w.store.row? key = old at hmoves
    cases hmoves with
    | same => exact hk.keyed hold
    | inserted hkeyed => exact hkeyed
    | replaced hkeyed hlater => exact hkeyed
  · cases hstep with
    | edit hedit =>
      cases hedit with
      | stay => exact hk.fits
      | read hholding hrow => exact fits_put hk.fits (hk.keyed hrow)
      | @work client lock t row done hopened hwork =>
        have hkey := hk.fits client
        rw [hopened] at hkey
        -- What is worked out of a row is what the edit makes of it.
        have hmakes := t.edit.makes (t.prepared w.store.clock) hwork
        exact fits_put hk.fits ⟨hkey, hmakes.sameIdentity, hmakes.later⟩
      | commit hready hreplace => exact fits_put (s := w.store) hk.fits trivial
      | tick clock => exact hk.fits
      | _ => exact fits_put hk.fits trivial
    | callDelete key hidle => exact fits_put hk.fits trivial
    | erase hholding => exact fits_put hk.fits trivial
    | insert hinsert => exact hk.fits

/-- A row that is not taken out stays, or is replaced by one at a later version. -/
theorem Kept.retains (hk : w.Kept) (hstep : Step w gone w') {key : Key} {row : Sequence}
    (hgone : gone ≠ some key) (h : w.store.Retains key row) : w'.store.Retains key row := by
  obtain ⟨stored, hstored, hcases⟩ := h
  have hmoves := hk.moves hstep key
  rw [hstored] at hmoves
  generalize hnew : w'.store.row? key = new at hmoves
  cases hmoves with
  | same => exact ⟨stored, hnew, hcases⟩
  | erased herased => exact absurd herased hgone
  | @replaced _ next hkeyed hlater =>
    refine ⟨next, hnew, .inr ?_⟩
    rcases hcases with rfl | hlt
    · exact hlater
    · exact Int.lt_trans hlt hlater

/-- What a client has read after a step it has read before, or it is what is stored. -/
theorem Step.read?_cases (hstep : Step w gone w') {c : Nat} {key : Key} {row : Sequence}
    (h : (w'.phase c).read? = some (key, row)) :
    (w.phase c).read? = some (key, row) ∨ w'.store.row? key = some row := by
  have hput {client : Nat} {p : Phase} {s : Store}
      (hown : p.read? = some (key, row) →
        (w.phase client).read? = some (key, row) ∨ s.row? key = some row)
      (h : ((w.put client p s).phase c).read? = some (key, row)) :
      (w.phase c).read? = some (key, row) ∨ s.row? key = some row := by
    by_cases hne : c = client
    · subst hne
      rw [phase_put_self] at h
      exact hown h
    · rw [phase_put_ne w p s hne] at h
      exact .inl h
  -- A client that comes to have read nothing is another one.
  have hnone {client : Nat} {p : Phase} {s : Store} (hp : p.read? = none)
      (h : ((w.put client p s).phase c).read? = some (key, row)) :
      (w.phase c).read? = some (key, row) ∨ s.row? key = some row := by
    refine hput ?_ h
    intro hread
    rw [hp] at hread
    cases hread
  cases hstep with
  | edit hedit =>
    cases hedit with
    | stay => exact .inl h
    | @read client lock t stored hholding hrow =>
      refine hput ?_ h
      intro hread
      cases hread
      exact .inr hrow
    | @work client lock t stored done hopened hwork =>
      refine hput ?_ h
      intro hread
      rw [hopened]
      exact .inl hread
    | commit hready hreplace => exact hnone rfl h
    | tick clock => exact .inl h
    | _ => exact hnone rfl h
  | callDelete other hidle => exact hnone rfl h
  | erase hholding => exact hnone rfl h
  | insert hinsert => exact .inl h

end

/-! ## What a client has read while it is at work -/

theorem inside?_of_read? {p : Phase} {key : Key} {row : Sequence}
    (h : p.read? = some (key, row)) : ∃ lock, p.inside? = some (key, lock) := by
  cases p with
  | opened t lock _ =>
    cases h
    exact ⟨lock, rfl⟩
  | ready t lock _ _ _ =>
    cases h
    exact ⟨lock, rfl⟩
  | _ => cases h

/-- What a client has read since a time is retained at the keys that were not taken out since. -/
structure Rests (client : Nat) (gone : List Key) (w : World) : Prop where
  kept : w.Kept
  retains : ∀ {key row}, key ∉ gone → (w.phase client).read? = some (key, row) →
    w.store.Retains key row

theorem Rests.step {client : Nat} {gone : List Key} {w w' : World} {key' : Option Key}
    (h : w.Rests client gone) (hstep : Step w key' w') :
    w'.Rests client (gone ++ key'.toList) := by
  refine ⟨h.kept.step hstep, ?_⟩
  intro key row hgone hread
  rw [List.mem_append, not_or] at hgone
  rcases hstep.read?_cases hread with hbefore | hstored
  · refine h.kept.retains hstep ?_ (h.retains hgone.1 hbefore)
    rintro rfl
    exact hgone.2 List.mem_cons_self
  · exact ⟨row, hstored, .inl rfl⟩

/-- What clients have read is retained at the keys that were taken out once at most. -/
structure Secured (gone : List Key) (w : World) : Prop where
  kept : w.Kept
  guarded : w.Guarded gone
  retains : ∀ {c key row}, gone.count key ≤ 1 → (w.phase c).read? = some (key, row) →
    w.store.Retains key row

theorem Secured.step {gone : List Key} {w w' : World} {key' : Option Key}
    (h : w.Secured gone) (hstep : Step w key' w') : w'.Secured (gone ++ key'.toList) := by
  refine ⟨h.kept.step hstep, h.guarded.step hstep, ?_⟩
  intro c key row hcount hread
  rw [List.count_append] at hcount
  rcases hstep.read?_cases hread with hbefore | hstored
  · refine h.kept.retains hstep ?_ (h.retains (by omega) hbefore)
    -- The first time that a key is taken out, nobody else is at it.
    rintro rfl
    have hfirst : key ∉ gone := by
      rw [Option.toList_some, List.count_singleton_self] at hcount
      exact List.count_eq_zero.mp (by omega)
    cases hstep with
    | @erase client lock _ hholding =>
      have hin : w.IsInside client key := ⟨lock, by rw [hholding]; rfl⟩
      have hc := h.guarded.eq_of_inside hfirst (inside?_of_read? hbefore) hin
      rw [hc, hholding] at hbefore
      cases hbefore
  · exact ⟨row, hstored, .inl rfl⟩

/-- A client that commits was ready, and its row is replaced. -/
theorem ready_of_commit {w w' : World} {client : Nat} {c : Commit}
    (hstep : w.act (.commit client) = some w') (hcommit : w'.commits = w.commits ++ [c]) :
    c.client = client ∧
      ∃ lock s, w.phase client = .ready c.task lock c.clock c.opened c.done ∧
        w.store.replaceRow c.opened c.done.row = .ok s ∧ w'.store = s := by
  simp only [act] at hstep
  split at hstep
  · rename_i t lock clock row done hready
    split at hstep
    · rename_i s hreplace
      cases hstep
      have hc : ⟨client, t, clock, row, done⟩ = c :=
        List.singleton_inj.mp (List.append_cancel_left hcommit)
      subst hc
      exact ⟨rfl, lock, s, hready, hreplace, rfl⟩
    · -- A commit that is refused is not among the commits.
      cases hstep
      have hlength := congrArg List.length hcommit
      rw [put_commits, List.length_append, List.length_singleton] at hlength
      omega
  · cases hstep

/-- While sequences are taken out and put in again at will, a commit replaces the very row that
    its client has read, if since a time at which the client had not read it the key was not
    taken out, or if it was taken out once at most in all. -/
theorem commit_replaces_read {s₀ : Store} (hs₀ : s₀.Reachable) {before after : List Act}
    {w₁ w w' : World} (hbefore : (start s₀).run before = some w₁)
    (hafter : w₁.run after = some w) {client : Nat} {c : Commit}
    (hunread : (w₁.phase client).read? = none) (hstep : w.act (.commit client) = some w')
    (hcommit : w'.commits = w.commits ++ [c])
    (hgone : c.key ∉ w₁.erased after ∨
      ((start s₀).erased before ++ w₁.erased after).count c.key ≤ 1) :
    w.store.row? c.key = some c.opened ∧ w'.store.row? c.key = some c.done.row ∧
      c.done.row.id = c.opened.id := by
  obtain ⟨-, lock, s, hready, hreplace, hs⟩ := ready_of_commit hstep hcommit
  have hsecured₁ : w₁.Secured ((start s₀).erased before) := by
    have hstart : (start s₀).Secured [] :=
      ⟨kept_start hs₀, (locked_start s₀).guarded, fun _ hread => nomatch hread⟩
    exact run_erased Secured.step hstart hbefore
  have hsecured := run_erased Secured.step hsecured₁ hafter
  have hread : (w.phase client).read? = some (c.key, c.opened) := by
    rw [hready]
    rfl
  have hretains : w.store.Retains c.key c.opened := by
    rcases hgone with hsince | honce
    · have hrests₁ : w₁.Rests client [] := by
        refine ⟨hsecured₁.kept, ?_⟩
        intro key row hin hread'
        rw [hunread] at hread'
        cases hread'
      have hrests := run_erased Rests.step hrests₁ hafter
      exact hrests.retains hsince hread
    · exact hsecured.retains honce hread
  have hfits := hsecured.kept.fits client
  rw [hready] at hfits
  obtain ⟨hkey, hsame, -⟩ := hfits
  have hkey : c.opened.key = c.key := hkey
  refine ⟨hretains.row?_of_replaceRow hkey hreplace, ?_, hsame.id⟩
  rw [hs, Store.row?_replaceRow hreplace, hkey]
  exact if_pos (beq_self_eq_true c.key)

/-- A client that waits while its sequence is taken out and another one is put in commits onto
    that one, which it has read. -/
theorem commit_replaces_read_waiting :
    let key : Key := ("acme", "invoices")
    let time : Moment := ⟨0, none, false⟩
    let row : Sequence := ⟨none, "acme", "invoices", "INV-\x7bCOUNTER\x7d", .never, none, 5, 1, 0,
      none, 0, [], time, time⟩
    let i : Issuer := ⟨.empty, .utc⟩
    let s₀ := ((Operation.insert row).run i (.new .memory 5000 time)).2
    let acts : List Act := [.call 0 i (.increment key none), .lookUp 0, .callDelete 1 key,
      .lookUp 1, .acquire 1, .erase 1, .release 1, .insert row, .acquire 0, .read 0, .work 0]
    s₀.Reachable ∧ ∃ w w' c, (start s₀).run acts = some w ∧ ((start s₀).phase 0).read? = none ∧
      w.act (.commit 0) = some w' ∧ w'.commits = w.commits ++ [c] ∧ c.opened.id = some 2 ∧
      ((start s₀).erased [] ++ (start s₀).erased acts).count c.key ≤ 1 ∧
      w.store.row? c.key = some c.opened ∧ w'.store.row? c.key = some c.done.row ∧
      c.done.row.id = c.opened.id := by
  intro key time row i s₀ acts
  have hs₀ : s₀.Reachable := .run i (.insert row) (.new 5000 time)
  have hfinal : ((start s₀).run acts).bind (fun w => (w.act (.commit 0)).map fun w' =>
      (w.commits.length, w'.commits.map fun c => (c.key, c.opened.id))) =
      some (0, [(key, some 2)]) := by
    decide +kernel
  obtain ⟨w, hrun, hfinal⟩ := Option.bind_eq_some_iff.mp hfinal
  obtain ⟨w', hstep, hfinal⟩ := Option.map_eq_some_iff.mp hfinal
  rw [Prod.mk.injEq, List.map_eq_singleton_iff] at hfinal
  obtain ⟨hnone, c, hc, hsummary⟩ := hfinal
  rw [Prod.mk.injEq] at hsummary
  have hcommit : w'.commits = w.commits ++ [c] := by
    rw [List.length_eq_zero_iff.mp hnone, hc]
    rfl
  have hgone : ((start s₀).erased [] ++ (start s₀).erased acts).count c.key ≤ 1 := by
    rw [hsummary.1]
    decide +kernel
  exact ⟨hs₀, w, w', c, hrun, rfl, hstep, hcommit, hsummary.2, hgone,
    commit_replaces_read hs₀ rfl hrun rfl hstep hcommit (.inr hgone)⟩

/-- Taken out once more, after the client has read it, the sequence comes back: the commit
    replaces a newer one with another id, as both are at one version. -/
theorem deleted_row_returns :
    let key : Key := ("acme", "invoices")
    let time : Moment := ⟨0, none, false⟩
    let row : Sequence := ⟨none, "acme", "invoices", "INV-\x7bCOUNTER\x7d", .never, none, 5, 1, 0,
      none, 0, [], time, time⟩
    let i : Issuer := ⟨.empty, .utc⟩
    let s₀ := ((Operation.insert row).run i (.new .memory 5000 time)).2
    let delete : List Act := [.callDelete 1 key, .lookUp 1, .acquire 1, .erase 1, .release 1]
    let acts : List Act := [.call 0 i (.increment key none), .lookUp 0] ++ delete ++
      [.insert row, .acquire 0, .read 0, .work 0] ++ delete ++ [.insert row]
    s₀.Reachable ∧ ∃ w w' c, (start s₀).run acts = some w ∧ w.act (.commit 0) = some w' ∧
      w'.commits = w.commits ++ [c] ∧ c.opened.id = some 2 ∧
      (w.store.row? c.key).bind (·.id) = some 3 ∧
      (w'.store.row? c.key).bind (·.id) = some 2 := by
  intro key time row i s₀ delete acts
  have hs₀ : s₀.Reachable := .run i (.insert row) (.new 5000 time)
  have hfinal : ((start s₀).run acts).bind (fun w => (w.act (.commit 0)).map fun w' =>
      (w.commits.length, w'.commits.map fun c => (c.opened.id,
        (w.store.row? c.key).bind (·.id), (w'.store.row? c.key).bind (·.id)))) =
      some (0, [(some 2, some 3, some 2)]) := by
    decide +kernel
  obtain ⟨w, hrun, hfinal⟩ := Option.bind_eq_some_iff.mp hfinal
  obtain ⟨w', hstep, hfinal⟩ := Option.map_eq_some_iff.mp hfinal
  simp only [Prod.mk.injEq, List.map_eq_singleton_iff] at hfinal
  obtain ⟨hnone, c, hc, hread, hreplaced, hstored⟩ := hfinal
  have hcommit : w'.commits = w.commits ++ [c] := by
    rw [List.length_eq_zero_iff.mp hnone, hc]
    rfl
  exact ⟨hs₀, w, w', c, hrun, hstep, hcommit, hread, hreplaced, hstored⟩

end World

end SerialNumbers
