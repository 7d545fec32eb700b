/-
  SerialNumbers.Proofs.Contention.Collected

  What a crew collects.  A sequence without a period and a limit never starts
  again, so its commits count up one after another, whoever makes them; and a
  dated pattern has another number for every counter.  The batches of all
  workers together hold just these numbers, so they pass the check in whatever
  order they are handed in (`Crew.Sound.exact`).
-/
import SerialNumbers.Proofs.Contention.Crew
import SerialNumbers.Proofs.Contention.Verdict
import SerialNumbers.Proofs.Store.Valid

namespace SerialNumbers

open Pattern Time

/-! ## Sequences that never start again -/

namespace Sequence

/-- Neither time nor count starts the sequence again. -/
structure Endless (s : Sequence) : Prop where
  period : s.period = .never
  limit : s.limit = none

theorem Endless.resetReason? {s : Sequence} (h : s.Endless) (zone : Zone) (now : Moment) :
    s.resetReason? zone now = .ok none := by
  unfold Sequence.resetReason? Tally.reason? Tally.dueByTime Tally.countReason Tally.dueByCount
  rw [h.period, h.limit]
  rfl

namespace SameRules

variable {a b c : Sequence}

theorem refl (a : Sequence) : a.SameRules a := ⟨rfl, rfl, rfl, rfl, rfl⟩

theorem trans (h : a.SameRules b) (h' : b.SameRules c) : a.SameRules c :=
  ⟨h'.pattern.trans h.pattern, h'.period.trans h.period, h'.limit.trans h.limit,
    h'.padding.trans h.padding, h'.step.trans h.step⟩

theorem endless (h : a.SameRules b) (ha : a.Endless) : b.Endless :=
  ⟨h.period.trans ha.period, h.limit.trans ha.limit⟩

end SameRules

end Sequence

/-- A number that is issued from such a sequence counts it up. -/
theorem Inside.Issues.counts {i : Issuer} {c : Context} {stamp : Moment} {opened : Sequence}
    {reason : Option String} {number : String} {done : Edited}
    (h : Issues i c stamp opened reason number done) (hendless : opened.Endless) :
    done.row = opened.counted stamp := by
  obtain rfl : none = reason := Except.ok.inj ((hendless.resetReason? _ _).symm.trans h.due)
  exact h.row

/-! ## Commits -/

/-- What each commit keeps of the row that it has found, all of them keep. -/
theorem Chained.keeps {P : Sequence → Prop} {row : Sequence} {commits : List Commit}
    {last : Option Sequence} (h : Chained (some row) commits last) (hrow : P row)
    (hkeeps : ∀ c ∈ commits, P c.opened → P c.done.row) :
    (∀ c ∈ commits, P c.opened) ∧ ∃ final, last = some final ∧ P final := by
  induction commits generalizing row with
  | nil => exact ⟨List.forall_mem_nil _, row, h.symm, hrow⟩
  | cons c rest ih =>
    obtain ⟨hopened, hrest⟩ := h
    cases hopened
    obtain ⟨hall, hlast⟩ := ih hrest (hkeeps c List.mem_cons_self hrow) fun d hd =>
      hkeeps d (List.mem_cons_of_mem c hd)
    exact ⟨List.forall_mem_cons.mpr ⟨hrow, hall⟩, hlast⟩

/-- The number of the pair is spelled from its counter. -/
def IsSpelled (pattern : String) (padding : Int) (pair : String × Int) : Prop :=
  ∃ d : Date, d.Fits ∧ pair.1.toList = spelling pattern padding d pair.2

theorem Commit.Issues.answered {zone : Zone} {c : Commit} (h : c.Issues zone)
    (hdated : IsDated c.opened.pattern) :
    ∃ number, c.done.answer.issued? = some (number, c.done.row.current) ∧
      IsSpelled c.opened.pattern c.opened.padding (number, c.done.row.current) := by
  obtain ⟨i, context, stamp, reason, number, -, hissue⟩ := h
  obtain ⟨hfits, hspelled⟩ := hissue.spelled hdated
  refine ⟨number, ?_, _, hfits, hspelled⟩
  rw [hissue.answer]
  rfl

/-- Pairs that are spelled by one dated pattern have different numbers if their counters are
    different. -/
theorem nodup_numbers {pattern : String} {padding : Int} {pairs : List (String × Int)}
    (hdated : IsDated pattern) (hspelled : ∀ pair ∈ pairs, IsSpelled pattern padding pair)
    (hnonneg : ∀ pair ∈ pairs, 0 ≤ pair.2) (hcounters : (pairs.map (·.2)).Nodup) :
    (pairs.map (·.1)).Nodup := by
  refine List.Nodup.map_on ?_ (List.Nodup.of_map _ hcounters)
  rintro ⟨number, n⟩ hx ⟨number', n'⟩ hy hsame
  obtain ⟨d, hd, hnumber⟩ := hspelled _ hx
  obtain ⟨d', hd', hnumber'⟩ := hspelled _ hy
  -- No counter is negative, so none has a sign.
  obtain ⟨k, hk⟩ := Int.eq_ofNat_of_zero_le (hnonneg _ hx)
  obtain ⟨k', hk'⟩ := Int.eq_ofNat_of_zero_le (hnonneg _ hy)
  dsimp only at hsame hnumber hnumber' hk hk'
  subst hsame hk hk'
  have hspelling := hnumber.symm.trans hnumber'
  rw [((spelling_eq_iff hdated hd hd').mp hspelling).2]

namespace Contention

theorem nodup_progression {step : Int} (hstep : 1 ≤ step) (start : Int) (n : Nat) :
    (progression step start n).Nodup := by
  refine List.Nodup.map ?_ List.nodup_range
  intro i j hij
  have hmul : step * ((i : Int) + 1) = step * ((j : Int) + 1) := Int.add_left_cancel hij
  have hsame := Int.eq_of_mul_eq_mul_left (by omega) hmul
  omega

theorem nonneg_of_mem_progression {step counter : Int} {n : Nat} (hstep : 1 ≤ step)
    (h : counter ∈ progression step 0 n) : 0 ≤ counter := by
  obtain ⟨i, -, rfl⟩ := List.mem_map.mp h
  have hmul : 0 ≤ step * ((i : Int) + 1) := Int.mul_nonneg (by omega) (by omega)
  omega

/-- The numbers of commits, with their counters. -/
def numbersOf (commits : List Commit) : List (String × Int) :=
  commits.filterMap (·.done.answer.issued?)

/-- What commits that follow each other have issued from a new sequence. -/
structure Numbered (row : Sequence) (commits : List Commit) (last : Option Sequence) : Prop where
  counters : (numbersOf commits).map (·.2) = progression row.step 0 commits.length
  distinct : ((numbersOf commits).map (·.1)).Nodup
  final : ∃ final, last = some final ∧ row.SameRules final ∧ final.Valid ∧
    final.current = row.step * commits.length

theorem numbered_of_chained {zone : Zone} {row : Sequence} {commits : List Commit}
    {last : Option Sequence} (h : Chained (some row) commits last)
    (hissues : ∀ c ∈ commits, c.Issues zone) (hfresh : row.Fresh) (hvalid : row.Valid)
    (hendless : row.Endless) (hdated : IsDated row.pattern) : Numbered row commits last := by
  have hkeeps : ∀ c ∈ commits, row.SameRules c.opened ∧ c.opened.Valid →
      row.SameRules c.done.row ∧ c.done.row.Valid := by
    rintro c hc ⟨hrules, hopened⟩
    obtain ⟨_, _, stamp, _, _, _, hissue⟩ := hissues c hc
    refine ⟨hrules.trans hissue.sameRules, ?_⟩
    rw [hissue.counts (hrules.endless hendless)]
    exact hopened.counted stamp
  obtain ⟨hopened, final, hlast, hfinal, hfinalValid⟩ :=
    h.keeps (P := fun r => row.SameRules r ∧ r.Valid) ⟨.refl row, hvalid⟩ hkeeps
  have hrules : ∀ c ∈ commits, row.SameRules c.opened := fun c hc => (hopened c hc).1
  have hcounts : ∀ c ∈ commits, ∃ now, c.done.row = c.opened.counted now := by
    intro c hc
    obtain ⟨_, _, stamp, _, _, _, hissue⟩ := hissues c hc
    exact ⟨stamp, hissue.counts ((hrules c hc).endless hendless)⟩
  have hanswered : ∀ c ∈ commits, ∃ number,
      c.done.answer.issued? = some (number, c.done.row.current) ∧
        IsSpelled row.pattern row.padding (number, c.done.row.current) := by
    intro c hc
    have hanswered := (hissues c hc).answered (by rw [(hrules c hc).pattern]; exact hdated)
    rw [(hrules c hc).pattern, (hrules c hc).padding] at hanswered
    exact hanswered
  obtain ⟨hcounters, final', hlast', hcurrent⟩ := h.counters hcounts
  cases hlast.symm.trans hlast'
  -- Every commit has a number, whose counter is that of its row.
  have hprogression : (numbersOf commits).map (·.2) = progression row.step 0 commits.length := by
    have hcurrents : (numbersOf commits).map (·.2) = commits.map (·.done.row.current) := by
      unfold numbersOf
      rw [List.map_filterMap, List.filterMap_eq_map_iff_forall_eq_some]
      intro c hc
      obtain ⟨number, hnumber, -⟩ := hanswered c hc
      rw [hnumber]
      rfl
    rw [hcurrents, hcounters, hfresh.current]
    unfold progression
    refine List.map_congr_left fun k _ => ?_
    rw [Int.mul_comm]
  have hspelled : ∀ pair ∈ numbersOf commits, IsSpelled row.pattern row.padding pair := by
    intro pair hmem
    obtain ⟨c, hc, hsome⟩ := List.mem_filterMap.mp hmem
    obtain ⟨number, hnumber, hspelled⟩ := hanswered c hc
    cases hsome.symm.trans hnumber
    exact hspelled
  refine ⟨hprogression, ?_, final, hlast, hfinal, hfinalValid, ?_⟩
  · refine nodup_numbers hdated hspelled ?_ ?_
    · intro pair hmem
      refine nonneg_of_mem_progression hfresh.step (n := commits.length) ?_
      rw [← hprogression]
      exact List.mem_map_of_mem hmem
    · rw [hprogression]
      exact nodup_progression hfresh.step 0 _
  · rw [hcurrent, hfresh.current, Int.zero_add, Int.mul_comm]

/-! ## Batches -/

/-- Elements that are put together by what they belong to are all there again. -/
theorem perm_flatMap_filter {α : Type} (f : α → Nat) (n : Nat) (l : List α) :
    ((List.range n).flatMap fun j => l.filter (f · == j)).Perm (l.filter (f · < n)) := by
  induction n with
  | zero => simp
  | succ n ih =>
    -- What belongs to the first `n + 1` belongs to the last of them, or to one before.
    have hsplit := List.filter_append_perm (f · < n) (l.filter (f · < n + 1))
    rw [List.filter_filter, List.filter_filter] at hsplit
    have hbefore : l.filter (fun a => decide (f a < n) && decide (f a < n + 1)) =
        l.filter (f · < n) := by
      refine List.filter_congr fun a _ => ?_
      rw [Bool.eq_iff_iff]
      simp only [Bool.and_eq_true, decide_eq_true_eq]
      omega
    have hlast : l.filter (fun a => !decide (f a < n) && decide (f a < n + 1)) =
        l.filter (f · == n) := by
      refine List.filter_congr fun a _ => ?_
      rw [Bool.eq_iff_iff]
      simp only [Bool.and_eq_true, Bool.not_eq_true', decide_eq_true_eq, decide_eq_false_iff_not,
        beq_iff_eq]
      omega
    rw [hbefore, hlast] at hsplit
    rw [List.range_succ, List.flatMap_append, List.flatMap_singleton]
    exact (ih.append_right _).trans hsplit

namespace Crew

/-- The batches of the first workers. -/
def batches (c : Crew) (workers : Nat) : List Batch :=
  (List.range workers).map fun j => (c.worker j).batch

/-- All numbers that were collected. -/
def collected (c : Crew) (workers : Nat) : List (String × Int) :=
  (c.batches workers).flatMap (·.numbers)

/-- How many calls were given up. -/
def lost (c : Crew) (workers : Nat) : Int :=
  ((c.batches workers).map (·.failures)).sum

/-- How many calls have still to be settled. -/
def left (c : Crew) (workers : Nat) : Int :=
  ((List.range workers).map fun j => ((c.worker j).left : Int)).sum

section

variable {p : Shift} {s₀ : Store} {T : Moment → Prop} {shares : List Int} {c : Crew}

/-- Whoever comes behind all shares has no calls. -/
theorem share_of_le {j : Nat} (h : shares.length ≤ j) : share shares j = 0 := by
  unfold share
  rw [List.getD_eq_default _ _ h]
  rfl

theorem sum_share (h : ∀ part ∈ shares, 0 ≤ part) :
    ((List.range shares.length).map fun j => (share shares j : Int)).sum = shares.sum := by
  congr 1
  refine List.ext_getElem (by rw [List.length_map, List.length_range]) fun j hj hj' => ?_
  rw [List.getElem_map, List.getElem_range]
  unfold share
  rw [List.getD_eq_getElem _ _ hj', Int.toNat_of_nonneg (h _ (List.getElem_mem hj'))]

/-- No call is lost sight of. -/
theorem Sound.settled (h : c.Sound p s₀ T (share shares)) (hshares : ∀ part ∈ shares, 0 ≤ part) :
    c.left shares.length + c.lost shares.length + (c.collected shares.length).length =
      shares.sum := by
  rw [← sum_share hshares]
  unfold left lost collected batches
  induction List.range shares.length with
  | nil => rfl
  | cons j rest ih =>
    obtain ⟨lost, hlost, hcounted⟩ := h.counted j
    simp only [List.map_cons, List.sum_cons, List.flatMap_cons, List.length_append, Nat.cast_add]
    omega

/-- What a worker has committed is a number. -/
theorem Sound.issues (h : c.Sound p s₀ T (share shares)) {d : Commit} (hd : d ∈ c.world.commits) :
    d.Issues p.issuer.zone := by
  obtain ⟨log, hwork⟩ := h.serial.worked d hd
  obtain ⟨context, stamp, reason, number, hissue⟩ := (h.assigned d hd).issues hwork
  exact ⟨p.issuer, context, stamp, reason, number, rfl, hissue⟩

/-- Whoever has no share has committed nothing. -/
theorem Sound.client_lt (h : c.Sound p s₀ T (share shares)) {d : Commit}
    (hd : d ∈ c.world.commits) : d.client < shares.length := by
  by_contra hout
  obtain ⟨_, _, _, _, _, _, hissue⟩ := h.issues hd
  have hmem : d ∈ c.world.commits.filter (·.client == d.client) :=
    List.mem_filter.mpr ⟨hd, beq_self_eq_true d.client⟩
  have hsome : d.done.answer.issued?.isSome = true := by
    rw [hissue.answer]
    rfl
  obtain ⟨pair, hpair⟩ := Option.isSome_iff_exists.mp hsome
  have hnumber : pair ∈ (c.worker d.client).batch.numbers := by
    rw [h.numbers]
    exact List.mem_filterMap.mpr ⟨d, hmem, hpair⟩
  have hnone : share shares d.client = 0 := share_of_le (Nat.le_of_not_lt hout)
  obtain ⟨lost, -, hcounted⟩ := h.counted d.client
  have := List.length_pos_of_mem hnumber
  omega

/-- The batches together hold the numbers of all commits. -/
theorem Sound.collected_perm (h : c.Sound p s₀ T (share shares)) :
    (c.collected shares.length).Perm (numbersOf c.world.commits) := by
  have hbatches : c.collected shares.length = numbersOf ((List.range shares.length).flatMap
      fun j => c.world.commits.filter (·.client == j)) := by
    unfold collected batches numbersOf
    rw [List.filterMap_flatMap, List.flatMap_map]
    refine congrArg (List.range shares.length).flatMap (funext fun j => ?_)
    exact h.numbers j
  have hall : c.world.commits.filter (·.client < shares.length) = c.world.commits :=
    List.filter_eq_self.mpr fun d hd => decide_eq_true (h.client_lt hd)
  rw [hbatches]
  have hperm := perm_flatMap_filter (·.client) shares.length c.world.commits
  rw [hall] at hperm
  exact hperm.filterMap _

end

/-- What was collected of a crew is as it should be at a new sequence. -/
structure Exact (row : Sequence) (calls : Int) (workers : Nat) (c : Crew) : Prop where
  /-- Whoever hands the numbers in, and in whatever order, they pass. -/
  verdict : ∀ numbers : List (String × Int), numbers.Perm (c.collected workers) →
    check numbers row.step 0 =
      { generated := (c.collected workers).length, unique := true, duplicates := 0
        contiguous := true, lastCounter := row.step * (c.collected workers).length }
  /-- The sequence has counted what was collected, and nothing else. -/
  stored : ∃ final, c.world.store.row? row.key = some final ∧ row.SameRules final ∧
    final.current = row.step * (c.collected workers).length
  /-- Every call is left, was given up, or has given a number. -/
  settled : c.left workers + c.lost workers + (c.collected workers).length = calls

end Crew

/-- The workers are at a sequence that is as it was made. -/
structure Shift.Begins (p : Shift) (s₀ : Store) : Prop where
  reachable : s₀.Reachable
  stored : s₀.row? p.handle.key = some p.handle
  fresh : p.handle.Fresh
  valid : p.handle.Valid
  endless : p.handle.Endless
  dated : IsDated p.handle.pattern

namespace Crew

variable {p : Shift} {s₀ : Store} {T : Moment → Prop} {shares : List Int} {c : Crew}

/-- The commits of a crew follow each other at its sequence. -/
theorem Sound.numbered (h : c.Sound p s₀ T (share shares)) (hp : p.Begins s₀) :
    Numbered p.handle c.world.commits (c.world.store.row? p.handle.key) := by
  have hall : c.world.commitsAt p.handle.key = c.world.commits := by
    refine List.filter_eq_self.mpr fun d hd => ?_
    rw [beq_iff_eq]
    exact (h.assigned d hd).key
  have hchained := h.serial.chained p.handle.key
  rw [hp.stored, hall] at hchained
  exact numbered_of_chained hchained (fun d hd => h.issues hd) hp.fresh hp.valid hp.endless hp.dated

theorem Sound.exact (h : c.Sound p s₀ T (share shares)) (hp : p.Begins s₀)
    (hshares : ∀ part ∈ shares, 0 ≤ part) : Exact p.handle shares.sum shares.length c := by
  have hnumbered := h.numbered hp
  have hperm := h.collected_perm
  have hlength : (numbersOf c.world.commits).length = c.world.commits.length := by
    have hcounters := congrArg List.length hnumbered.counters
    rw [List.length_map, length_progression] at hcounters
    exact hcounters
  refine ⟨?_, ?_, h.settled hshares⟩
  · intro numbers hnumbers
    have hall := hnumbers.trans hperm
    rw [← hnumbers.length_eq]
    refine (check_of_exact hp.fresh.step ?_ ?_).trans ?_
    · exact (hall.map _).nodup_iff.mpr hnumbered.distinct
    · rw [hall.length_eq, hlength, ← hnumbered.counters]
      exact hall.map _
    · rw [Int.zero_add]
  · obtain ⟨final, hstored, hrules, -, hcurrent⟩ := hnumbered.final
    rw [hperm.length_eq, hlength]
    exact ⟨final, hstored, hrules, hcurrent⟩

end Crew

end Contention

end SerialNumbers
