/-
  SerialNumbers.Proofs.Concurrency.ExactlyOnce

  What clients can rely on.  Whatever edits they run and however their steps
  come to stand, no two are at one key, no commit is refused, and all comes out
  as if the committed edits had been done one after another; in particular
  every step of a counter is counted once (`World.exactly_once`).
-/
import SerialNumbers.Proofs.Concurrency.Serial

namespace SerialNumbers

open Time

/-- The counter that an answer carries, if it is a row. -/
def Answer.counter? : Answer → Option Int
  | .row r => some r.current
  | _ => none

/-- Commits that follow each other, each of which counts its row up once, count by its step. -/
theorem Chained.counters {row : Sequence} {commits : List Commit} {last : Option Sequence}
    (h : Chained (some row) commits last)
    (hcounts : ∀ c ∈ commits, ∃ now, c.done.row = c.opened.counted now) :
    commits.map (·.done.row.current) =
        (List.range commits.length).map (fun k : Nat => row.current + (k + 1) * row.step) ∧
      ∃ final, last = some final ∧ final.current = row.current + commits.length * row.step := by
  induction commits generalizing row with
  | nil =>
    refine ⟨rfl, row, h.symm, ?_⟩
    show row.current = row.current + (0 : Nat) * row.step
    rw [Int.natCast_zero, Int.zero_mul, Int.add_zero]
  | cons c rest ih =>
    obtain ⟨hopened, hrest⟩ := h
    cases hopened
    obtain ⟨now, hdone⟩ := hcounts c List.mem_cons_self
    -- The rest of the chain starts from the row that the first commit has stored.
    obtain ⟨hlist, final, hlast, hfinal⟩ :=
      ih hrest fun d hd => hcounts d (List.mem_cons_of_mem c hd)
    have hcurrent : c.done.row.current = c.opened.current + c.opened.step := by
      rw [hdone]
      rfl
    have hstep : c.done.row.step = c.opened.step := by rw [hdone]; rfl
    rw [hcurrent, hstep] at hlist hfinal
    -- One step of the first commit and `k + 1` steps of the rest are `k + 2`.
    refine ⟨?_, final, hlast, ?_⟩
    · rw [List.map_cons, List.length_cons, List.range_succ_eq_map, List.map_cons, List.map_map,
        hlist, hcurrent]
      congr 1
      · rw [Int.natCast_zero, Int.zero_add, Int.one_mul]
      · apply List.map_congr_left
        intro k _
        show c.opened.current + c.opened.step + (k + 1) * c.opened.step =
          c.opened.current + ((k + 1 : Nat) + 1) * c.opened.step
        rw [Int.natCast_succ, Int.add_mul ((k : Int) + 1), Int.one_mul]
        omega
    · rw [hfinal, List.length_cons, Int.natCast_succ, Int.add_mul _ 1, Int.one_mul]
      omega

namespace World

/-- What clients can rely on in a world that began with a store. -/
structure ExactlyOnce (s₀ : Store) (w : World) : Prop where
  alone : ∀ {c c' key}, w.IsInside c key → w.IsInside c' key → c = c'
  /-- The row that a client is about to replace is still at the version that it has read. -/
  accepted : ∀ {c t lock clock row done}, w.phase c = .ready t lock clock row done →
    ∃ s, w.store.replaceRow row done.row = .ok s
  chained : ∀ key, Chained (s₀.row? key) (w.commitsAt key) (w.store.row? key)
  /-- One after another, in the order of their commits, the edits answer the same, -/
  answers : s₀.answers w.commits = w.commits.map (.ok ·.done.answer)
  /-- they leave the same rows, -/
  rows : ∀ key, (s₀.serial w.commits).row? key = w.store.row? key
  /-- and they log the same about each of them. -/
  logged : ∀ {key row id}, (∀ c rest, (w.phase c).rest? ≠ some (key, rest)) →
    w.store.row? key = some row → row.id = some id →
    story id (s₀.serial w.commits).entries = story id w.store.entries
  /-- Where all that was committed has counted up, each step was counted once. -/
  counted : ∀ {key row}, s₀.row? key = some row →
    (∀ c ∈ w.commitsAt key, ∃ now, c.task.edit = .increment key now) →
    (w.commitsAt key).map (·.done.answer.counter?) =
        (List.range (w.commitsAt key).length).map
          (fun k : Nat => some (row.current + (k + 1) * row.step)) ∧
      ∃ final, w.store.row? key = some final ∧
        final.current = row.current + (w.commitsAt key).length * row.step

/-- What counts up counts its row up once, and answers with it. -/
theorem Serial.increment {s₀ : Store} {w : World} (h : w.Serial s₀) {c : Commit}
    (hc : c ∈ w.commits) {key : Key} {now : Option Moment}
    (hedit : c.task.edit = .increment key now) :
    (∃ now, c.done.row = c.opened.counted now) ∧ c.done.answer = .row c.done.row := by
  obtain ⟨log, hwork⟩ := h.worked c hc
  have hprepared := c.task.prepared c.clock
  rw [hedit] at hprepared
  rw [← Except.ok.inj hprepared] at hwork
  rw [Inside.increment_eq_ok hwork]
  exact ⟨⟨_, rfl⟩, rfl⟩

/-- The row that a client has worked on is still there, so its commit is not refused. -/
theorem Serial.accepted {s₀ : Store} {w : World} (h : w.Serial s₀) (hs₀ : s₀.Reachable)
    {c lock : Nat} {t : Task} {clock : Moment} {row : Sequence} {done : Edited}
    (hready : w.phase c = .ready t lock clock row done) :
    ∃ s, w.store.replaceRow row done.row = .ok s := by
  have hagrees := h.agrees c
  rw [hready] at hagrees
  have hkey : row.key = t.key := (h.identified hs₀ hagrees.1).1
  refine ⟨_, Store.replaceRow_eq_ok.mpr ⟨row, ?_, rfl, rfl⟩⟩
  rw [hkey]
  exact hagrees.1

/-- Increments at a key count from the row that was there at first. -/
theorem Serial.counted {s₀ : Store} {w : World} (h : w.Serial s₀) {key : Key} {row : Sequence}
    (hrow : s₀.row? key = some row)
    (hall : ∀ c ∈ w.commitsAt key, ∃ now, c.task.edit = .increment key now) :
    (w.commitsAt key).map (·.done.answer.counter?) =
        (List.range (w.commitsAt key).length).map
          (fun k : Nat => some (row.current + (k + 1) * row.step)) ∧
      ∃ final, w.store.row? key = some final ∧
        final.current = row.current + (w.commitsAt key).length * row.step := by
  have hincrement : ∀ c ∈ w.commitsAt key,
      (∃ now, c.done.row = c.opened.counted now) ∧ c.done.answer = .row c.done.row := by
    intro c hc
    obtain ⟨now, hedit⟩ := hall c hc
    exact h.increment ((List.mem_filter.mp hc).1) hedit
  have hchained : Chained (some row) (w.commitsAt key) (w.store.row? key) := by
    rw [← hrow]
    exact h.chained key
  obtain ⟨hcounters, hfinal⟩ := hchained.counters fun c hc => (hincrement c hc).1
  have hanswers : (w.commitsAt key).map (·.done.answer.counter?) =
      ((w.commitsAt key).map (·.done.row.current)).map some := by
    rw [List.map_map]
    apply List.map_congr_left
    intro c hc
    rw [(hincrement c hc).2]
    rfl
  refine ⟨?_, hfinal⟩
  rw [hanswers, hcounters, List.map_map]
  rfl

/-- Whatever edits the clients of a reachable store run, in whatever order their steps come to
    stand and whoever gives up on a lock: each edit that is committed counts exactly once. -/
theorem exactly_once {s₀ : Store} (hs₀ : s₀.Reachable) {w : World} {acts : List Act}
    (hrun : (start s₀).run acts = some w) (hacts : ∀ a ∈ acts, a.isEdit = true) :
    ExactlyOnce s₀ w := by
  have h := Serial.run hs₀ hrun hacts
  refine ⟨h.locked.eq_of_inside, h.accepted hs₀, h.chained, h.answers, ?_, ?_, h.counted⟩
  · intro key
    exact (h.rows key).symm
  · intro key row id hnone hrow hid
    exact (h.level hnone hrow hid).symm

/-- Two clients that count at one row, of which the second waits for the first. -/
theorem exactly_once_two :
    let key : Key := ("acme", "invoices")
    let time : Moment := ⟨0, none, false⟩
    let row : Sequence := ⟨none, "acme", "invoices", "INV-\x7bCOUNTER\x7d", .never, none, 5, 3, 7,
      none, 0, [], time, time⟩
    let i : Issuer := ⟨.empty, .utc⟩
    let s₀ := ((Operation.insert row).run i (.new .memory 5000 time)).2
    let acts : List Act := [.call 0 i (.increment key none), .call 1 i (.increment key none),
      .lookUp 0, .lookUp 1, .acquire 0, .read 0, .work 0, .commit 0, .release 0, .acquire 1,
      .read 1, .work 1, .commit 1, .release 1]
    s₀.Reachable ∧ (∀ a ∈ acts, a.isEdit = true) ∧
      ∃ w, (start s₀).run acts = some w ∧
        (w.commitsAt key).map (·.done.answer.counter?) = [some 10, some 13] ∧
        ExactlyOnce s₀ w := by
  intro key time row i s₀ acts
  have hs₀ : s₀.Reachable := .run i (.insert row) (.new 5000 time)
  have hacts : ∀ a ∈ acts, a.isEdit = true := by
    intro a ha
    exact List.all_eq_true.mp (rfl : acts.all Act.isEdit = true) a ha
  have hcounters : ((start s₀).run acts).map
      (fun w => (w.commitsAt key).map (·.done.answer.counter?)) = some [some 10, some 13] := by
    rfl
  obtain ⟨w, hrun, hw⟩ := Option.map_eq_some_iff.mp hcounters
  exact ⟨hs₀, hacts, w, hrun, hw, exactly_once hs₀ hrun hacts⟩

end World

end SerialNumbers
