/-
  SerialNumbers.Proofs.Database.Pool

  The pool that is kept over any run of requests.  Beside the keeper stands a
  ledger of the pools that were opened and of the settings that each was opened
  for.  Main statement: at no time is more than one pool open; a request is
  answered with an open pool whose settings have the same connection text, the
  one that is open if its text is the same, and else a new one in its place
  (`Ledger.run_serves`).  Settings whose parts can be told apart so have a pool
  of their own database; where a sign stands inside a part, the pool may be that
  of another user (`Ledger.shares_of_sign`).
-/
import SerialNumbers.Database.Pool
import SerialNumbers.Proofs.Database.ConnectionText

namespace SerialNumbers.Database

namespace PoolKeeper

/-! ## Requests to the keeper -/

section

variable (k : PoolKeeper)

@[simp]
theorem closeAll_current : k.closeAll.current = none := by
  unfold closeAll
  split
  · assumption
  · rfl

@[simp]
theorem closeAll_opened : k.closeAll.opened = k.opened := by
  unfold closeAll
  split <;> rfl

theorem mem_closeAll_closed {n : Nat} :
    n ∈ k.closeAll.closed ↔ n ∈ k.closed ∨ ∃ p ∈ k.current, p.number = n := by
  unfold closeAll
  cases k.current with
  | none => exact (or_iff_left nofun).symm
  | some p =>
    rw [List.mem_cons, or_comm, eq_comm]
    exact or_congr_right ⟨fun h => ⟨p, rfl, h⟩, fun ⟨_, hp, h⟩ => Option.some.inj hp ▸ h⟩

/-- The pool that some settings ask for, if it is opened. -/
def freshFor (s : Settings) : Pool :=
  ⟨k.opened, s.connectionText, s.poolLeast, s.poolMost, s.poolTimeout⟩

/-- The pool that is kept is given for its own address, and else closed before a new one is
    opened. -/
theorem poolFor_cases (s : Settings) :
    (∃ p, k.current = some p ∧ p.address = s.connectionText ∧ k.poolFor s = (p, k)) ∨
    ((∀ p ∈ k.current, p.address ≠ s.connectionText) ∧ k.poolFor s =
      (k.freshFor s, ⟨some (k.freshFor s), k.opened + 1, k.closeAll.closed⟩)) := by
  unfold poolFor pool
  cases hcurrent : k.current with
  | none =>
    refine .inr ⟨nofun, ?_⟩
    simp only [start, closeAll, hcurrent, freshFor]
  | some p =>
    by_cases haddress : p.address = s.connectionText
    · exact .inl ⟨p, rfl, haddress, if_pos (beq_iff_eq.mpr haddress)⟩
    · refine .inr ⟨fun q hq => Option.some.inj hq ▸ haddress, ?_⟩
      simp only [beq_iff_eq, haddress, if_false, start, closeAll, hcurrent, freshFor]

end

end PoolKeeper

/-! ## The ledger -/

/-- A keeper, and the pools that it opened with the settings that each was opened for. -/
structure Ledger where
  keeper : PoolKeeper
  made : List (Pool × Settings)

/-- What is asked of a keeper. -/
inductive Request where
  | pool (s : Settings)
  | closeAll

namespace Ledger

def new : Ledger := ⟨.new, []⟩

/-- The pool for some settings is written down if it had to be opened. -/
def ask (l : Ledger) (s : Settings) : Pool × Ledger :=
  let (p, k) := l.keeper.poolFor s
  (p, ⟨k, if k.opened = l.keeper.opened then l.made else l.made ++ [(p, s)]⟩)

def step (l : Ledger) : Request → Ledger
  | .pool s => (l.ask s).2
  | .closeAll => { l with keeper := l.keeper.closeAll }

def run (requests : List Request) : Ledger :=
  requests.foldl step new

/-- A pool that was opened for some settings is still open. -/
def Open (l : Ledger) (p : Pool) (s : Settings) : Prop :=
  (p, s) ∈ l.made ∧ l.keeper.isOpen p = true

/-- Every pool but the kept one is closed. -/
structure Sound (l : Ledger) : Prop where
  numbered : l.made.map (·.1.number) = List.range l.keeper.opened
  addressed : ∀ e ∈ l.made, e.1.address = e.2.connectionText
  kept : ∀ p ∈ l.keeper.current, ∃ s, (p, s) ∈ l.made
  past : ∀ n ∈ l.keeper.closed, n < l.keeper.opened
  closed : ∀ e ∈ l.made, e.1.number ∈ l.keeper.closed ↔ l.keeper.current ≠ some e.1

section

variable {l : Ledger} {p q : Pool} {s t u : Settings}

theorem ask_cases (l : Ledger) (s : Settings) :
    (∃ p, l.keeper.current = some p ∧ p.address = s.connectionText ∧ l.ask s = (p, l)) ∨
    ((∀ p ∈ l.keeper.current, p.address ≠ s.connectionText) ∧
      l.ask s = (l.keeper.freshFor s, ⟨⟨some (l.keeper.freshFor s), l.keeper.opened + 1,
        l.keeper.closeAll.closed⟩, l.made ++ [(l.keeper.freshFor s, s)]⟩)) := by
  unfold ask
  rcases l.keeper.poolFor_cases s with ⟨p, hcurrent, haddress, hpool⟩ | ⟨haddress, hpool⟩
  · refine .inl ⟨p, hcurrent, haddress, ?_⟩
    rw [hpool]
    dsimp only
    rw [if_pos rfl]
  · refine .inr ⟨haddress, ?_⟩
    rw [hpool]
    dsimp only
    rw [if_neg (Nat.succ_ne_self _)]

theorem Sound.number_lt (h : l.Sound) (hmade : (p, s) ∈ l.made) : p.number < l.keeper.opened := by
  rw [← List.mem_range, ← h.numbered]
  exact List.mem_map_of_mem hmade

/-- A pool was opened once. -/
theorem Sound.settings_unique (h : l.Sound) (hs : (p, s) ∈ l.made) (ht : (p, t) ∈ l.made) :
    s = t := by
  have hnodup : (l.made.map (·.1.number)).Nodup := h.numbered ▸ List.nodup_range
  exact (Prod.mk.inj (List.inj_on_of_nodup_map hnodup hs ht rfl)).2

/-- The kept pool is the one that is open. -/
theorem Sound.isOpen_iff (h : l.Sound) (hmade : (p, s) ∈ l.made) :
    l.keeper.isOpen p = true ↔ l.keeper.current = some p := by
  unfold PoolKeeper.isOpen
  have hclosed := h.closed _ hmade
  simp only [decide_eq_true (h.number_lt hmade), Bool.true_and, Bool.not_eq_true',
    List.contains_eq_mem, decide_eq_false_iff_not, hclosed, ne_eq, not_not]

theorem Sound.open_iff (h : l.Sound) :
    l.Open p s ↔ (p, s) ∈ l.made ∧ l.keeper.current = some p :=
  and_congr_right fun hmade => h.isOpen_iff hmade

theorem Sound.open_unique (h : l.Sound) (hp : l.Open p s) (hq : l.Open q t) : p = q ∧ s = t := by
  obtain ⟨hp, hcurrent⟩ := h.open_iff.mp hp
  obtain ⟨hq, hcurrent'⟩ := h.open_iff.mp hq
  obtain rfl := Option.some.inj (hcurrent.symm.trans hcurrent')
  exact ⟨rfl, h.settings_unique hp hq⟩

/-! ## Steps and runs -/

theorem sound_new : new.Sound where
  numbered := rfl
  addressed := List.forall_mem_nil _
  kept := nofun
  past := List.forall_mem_nil _
  closed := List.forall_mem_nil _

theorem Sound.mem_closeAll_closed (h : l.Sound) (hmade : (p, s) ∈ l.made) :
    p.number ∈ l.keeper.closeAll.closed := by
  rw [PoolKeeper.mem_closeAll_closed]
  by_cases hcurrent : l.keeper.current = some p
  · exact .inr ⟨p, hcurrent, rfl⟩
  · exact .inl ((h.closed _ hmade).mpr hcurrent)

theorem Sound.lt_of_mem_closeAll_closed (h : l.Sound) {n : Nat}
    (hn : n ∈ l.keeper.closeAll.closed) : n < l.keeper.opened := by
  rcases (PoolKeeper.mem_closeAll_closed _).mp hn with hn | ⟨p, hp, rfl⟩
  · exact h.past n hn
  · obtain ⟨s, hmade⟩ := h.kept p hp
    exact h.number_lt hmade

theorem Sound.step (h : l.Sound) (r : Request) : (l.step r).Sound := by
  cases r with
  | closeAll =>
    refine ⟨?_, h.addressed, ?_, ?_, ?_⟩
    · exact h.numbered.trans (congrArg List.range (l.keeper.closeAll_opened).symm)
    · intro p hp
      cases (l.keeper.closeAll_current).symm.trans hp
    · intro n hn
      exact (h.lt_of_mem_closeAll_closed hn).trans_eq (l.keeper.closeAll_opened).symm
    · intro e he
      refine iff_of_true (h.mem_closeAll_closed he) fun hcurrent => ?_
      cases (l.keeper.closeAll_current).symm.trans hcurrent
  | pool s =>
    rcases l.ask_cases s with ⟨p, -, -, hask⟩ | ⟨-, hask⟩
    · rw [Ledger.step, hask]
      exact h
    · rw [Ledger.step, hask]
      refine ⟨?_, ?_, ?_, ?_, ?_⟩
      · rw [List.map_append, h.numbered, List.range_succ]
        rfl
      · exact List.forall_mem_append.mpr ⟨h.addressed, List.forall_mem_singleton.mpr rfl⟩
      · intro p hp
        obtain rfl := Option.some.inj hp
        exact ⟨s, List.mem_append_right _ List.mem_cons_self⟩
      · exact fun n hn => (h.lt_of_mem_closeAll_closed hn).trans (Nat.lt_succ_self _)
      · refine List.forall_mem_append.mpr ⟨?_, List.forall_mem_singleton.mpr ?_⟩
        · -- An older pool has a smaller number than the new one.
          intro e he
          refine iff_of_true (h.mem_closeAll_closed he) fun hcurrent => ?_
          have hlt := h.number_lt he
          rw [← Option.some.inj hcurrent] at hlt
          exact absurd hlt (Nat.lt_irrefl _)
        · exact iff_of_false (fun hn => absurd (h.lt_of_mem_closeAll_closed hn) (Nat.lt_irrefl _))
            (not_not.mpr rfl)

theorem sound_run (requests : List Request) : (run requests).Sound := by
  suffices hfrom : ∀ l : Ledger, l.Sound → (requests.foldl Ledger.step l).Sound from
    hfrom new sound_new
  induction requests with
  | nil => exact fun _ h => h
  | cons r rest ih => exact fun l h => ih _ (h.step r)

/-! ## Answers -/

/-- How a request for the pool of some settings is answered: the pool, and the ledger
    afterwards. -/
structure Serves (l : Ledger) (s : Settings) (p : Pool) (l' : Ledger) : Prop where
  /-- At most one pool is open at any time. -/
  one : ∀ q t r u, l.Open q t → l.Open r u → q = r ∧ t = u
  /-- The given pool is open, and the only one. -/
  given : ∃ t, l'.Open p t ∧ t.connectionText = s.connectionText ∧
    (t.Separable → s.Separable → t.SameDatabase s) ∧ ∀ q u, l'.Open q u → q = p ∧ u = t
  /-- Where the text is that of the open pool, nothing is opened or closed. -/
  same : ∀ q t, l.Open q t → t.connectionText = s.connectionText → p = q ∧ l' = l
  /-- Where it is another one, the open pool is closed and a new one opened. -/
  other : ∀ q t, l.Open q t → t.connectionText ≠ s.connectionText →
    l'.keeper.isOpen q = false ∧ l'.made = l.made ++ [(p, s)]
  /-- So it is for settings of another database whose parts can be told apart. -/
  moved : ∀ q t, l.Open q t → t.Separable → s.Separable → ¬ t.SameDatabase s →
    l'.keeper.isOpen q = false ∧ l'.made = l.made ++ [(p, s)]
  first : (∀ q t, ¬ l.Open q t) → l'.made = l.made ++ [(p, s)]

theorem Sound.serves (h : l.Sound) (s : Settings) : l.Serves s (l.ask s).1 (l.ask s).2 := by
  have h' : (l.ask s).2.Sound := h.step (.pool s)
  have hdatabase : ∀ t : Settings, t.connectionText = s.connectionText → t.Separable →
      s.Separable → t.SameDatabase s :=
    fun t htext ht hs => (Settings.connectionText_eq_iff ht hs).mp htext
  rcases l.ask_cases s with ⟨p, hcurrent, haddress, hask⟩ | ⟨haddress, hask⟩
  · rw [hask] at h' ⊢
    obtain ⟨t, hmade⟩ := h.kept p hcurrent
    have hopen : l.Open p t := h.open_iff.mpr ⟨hmade, hcurrent⟩
    have htext : t.connectionText = s.connectionText := (h.addressed _ hmade).symm.trans haddress
    -- Whatever is open is this pool, so its text is not another one.
    have hsame : ∀ q u, l.Open q u → u.connectionText = s.connectionText := fun q u hq =>
      (h.open_unique hq hopen).2 ▸ htext
    refine ⟨fun _ _ _ _ => h.open_unique, ⟨t, hopen, htext, hdatabase t htext, ?_⟩, ?_, ?_, ?_, ?_⟩
    · exact fun _ _ hq => h.open_unique hq hopen
    · exact fun _ _ hq _ => ⟨(h.open_unique hopen hq).1, rfl⟩
    · exact fun q u hq hne => absurd (hsame q u hq) hne
    · exact fun q u hq hu hs hne => absurd (hdatabase u (hsame q u hq) hu hs) hne
    · exact fun hnone => absurd hopen (hnone p t)
  · rw [hask] at h' ⊢
    have hopen : Open _ (l.keeper.freshFor s) s :=
      h'.open_iff.mpr ⟨List.mem_append_right _ List.mem_cons_self, rfl⟩
    have hother : ∀ q t, l.Open q t → t.connectionText ≠ s.connectionText := by
      intro q t hq
      obtain ⟨hmade, hcurrent⟩ := h.open_iff.mp hq
      rw [← h.addressed _ hmade]
      exact haddress q hcurrent
    have hclosed : ∀ q t, l.Open q t → PoolKeeper.isOpen ⟨some (l.keeper.freshFor s),
        l.keeper.opened + 1, l.keeper.closeAll.closed⟩ q = false := by
      intro q t hq
      rw [← Bool.not_eq_true, h'.isOpen_iff (List.mem_append_left _ hq.1)]
      intro hcurrent
      have hlt := h.number_lt hq.1
      rw [← Option.some.inj hcurrent] at hlt
      exact Nat.lt_irrefl _ hlt
    refine ⟨fun _ _ _ _ => h.open_unique, ⟨s, hopen, rfl, hdatabase s rfl, ?_⟩, ?_, ?_, ?_, ?_⟩
    · exact fun _ _ hq => h'.open_unique hq hopen
    · exact fun q t hq htext => absurd htext (hother q t hq)
    · exact fun q t hq _ => ⟨hclosed q t hq, rfl⟩
    · exact fun q t hq _ _ _ => ⟨hclosed q t hq, rfl⟩
    · exact fun _ => rfl

end

/-- After any requests at most one pool is open.  The next request for a pool is given one that
    is open and was opened for settings with the same connection text, so for the same database if
    the parts of both can be told apart; the pool of another text is closed and replaced. -/
theorem run_serves (requests : List Request) (s : Settings) :
    (run requests).Serves s ((run requests).ask s).1 ((run requests).ask s).2 :=
  (sound_run requests).serves s

/-- The parts of the user "app:x" cannot be told from those of the user "app": after a request
    for the one, the other is given the same pool. -/
theorem run_serves_other_user :
    let app : Settings := ⟨"localhost", 5432, "app", "x:secret", "sequencing", 1, 10, .ofNat 30,
      "development", "INFO", false, .database, "UTC", 5000, 5, 8, 1000⟩
    let other : Settings := { app with user := "app:x", password := "secret" }
    ¬ app.SameDatabase other ∧ (run [.pool app]).Open ((run [.pool app]).ask other).1 app ∧
      (run [.pool app]).Serves other ((run [.pool app]).ask other).1
        ((run [.pool app]).ask other).2 := by
  intro app other
  have hopen : (run [.pool app]).Open ((run []).ask app).1 app :=
    ⟨List.mem_cons_self, by decide +kernel⟩
  have hserves := run_serves [.pool app] other
  have hsame : ((run [.pool app]).ask other).1 = ((run []).ask app).1 :=
    (hserves.same _ _ hopen (by decide +kernel)).1
  exact ⟨fun h => absurd h.user (by decide), hsame ▸ hopen, hserves⟩

/-- After a request for other settings with the same text, settings with a colon in the user or
    an at sign in the password are given the pool of the others. -/
theorem shares_of_sign (requests : List Request) {s : Settings}
    (h : ':' ∈ s.user.toList ∨ '@' ∈ s.password.toList) :
    ∃ t : Settings, ¬ t.SameDatabase s ∧
      ((run (requests ++ [.pool t])).ask s).1 = ((run requests).ask t).1 := by
  obtain ⟨t, htext, hother⟩ := Settings.exists_other_of_sign h
  have hrun : run (requests ++ [.pool t]) = ((run requests).ask t).2 := by
    unfold run
    rw [List.foldl_append]
    rfl
  obtain ⟨u, hopen, htext', -⟩ := ((sound_run requests).serves t).given
  rw [← hrun] at hopen
  exact ⟨t, hother, (((sound_run _).serves s).same _ _ hopen (htext'.trans htext)).1⟩

end Ledger

end SerialNumbers.Database
