/-
  SerialNumbers.Proofs.Contention.Verdict

  Sharing out and checking.  Calls are shared out evenly and none is lost
  (`split_shares`).  The check cannot be misled: by counters that repeat where
  others are missing, by numbers that repeat, or by the order in which the
  numbers are handed in (`check_reports`).
-/
import SerialNumbers.Contention.Batch
import SerialNumbers.Proofs.Distinct

namespace SerialNumbers.Contention

/-! ## Sharing out -/

/-- How calls are shared out among workers. -/
structure Shares (calls workers : Int) (parts : List Int) : Prop where
  length : (parts.length : Int) = min calls workers
  least : ∀ part ∈ parts, 1 ≤ part
  ordered : parts.Pairwise (· ≥ ·)
  even : ∀ part ∈ parts, ∀ other ∈ parts, part ≤ other + 1
  total : parts.sum = calls

theorem filterMap_of_forall_some {α β : Type} {f : α → Option β} {l : List α} {b : β}
    (h : ∀ a ∈ l, f a = some b) : l.filterMap f = List.replicate l.length b := by
  rw [List.filterMap_eq_map_iff_forall_eq_some.mpr h, List.map_const']

/-- The first workers take one call more each; the others have calls only if there is one for
    every worker. -/
theorem split_eq (calls : Nat) {workers : Nat} (hworkers : 0 < workers) :
    split calls workers = .ok
      (List.replicate (calls % workers) ((calls / workers : Nat) + 1 : Int) ++
        if calls / workers = 0 then []
        else List.replicate (workers - calls % workers) ((calls / workers : Nat) : Int)) := by
  have hsome : ¬ ((workers : Int) == 0) = true := by
    rw [beq_iff_eq]
    omega
  have hextra := Nat.mod_lt calls hworkers
  have hrange : List.range workers = List.range (calls % workers) ++
      (List.range (workers - calls % workers)).map (calls % workers + ·) := by
    rw [← List.range_add, Nat.add_sub_cancel' (Nat.le_of_lt hextra)]
  have hbase : Int.fdiv calls workers = ((calls / workers : Nat) : Int) := by
    rw [Int.fdiv_eq_ediv_of_nonneg _ (Int.natCast_nonneg _), Int.natCast_ediv]
  have hrest : Int.fmod calls workers = ((calls % workers : Nat) : Int) := by
    rw [Int.fmod_eq_emod_of_nonneg _ (Int.natCast_nonneg _), Int.natCast_emod]
  unfold split
  rw [if_neg hsome]
  dsimp only
  rw [hbase, hrest, Int.toNat_natCast, hrange, List.filterMap_append]
  congr 2
  · refine (filterMap_of_forall_some fun i hi => ?_).trans (by rw [List.length_range])
    rw [if_pos (Int.ofNat_lt.mpr (List.mem_range.mp hi))]
  · -- Whoever comes later takes no call more.
    have hlate : ∀ i ∈ (List.range (workers - calls % workers)).map (calls % workers + ·),
        ¬ ((i : Nat) : Int) < ((calls % workers : Nat) : Int) := by
      intro i hi
      obtain ⟨k, -, rfl⟩ := List.mem_map.mp hi
      omega
    by_cases hzero : calls / workers = 0
    · rw [if_pos hzero]
      refine List.filterMap_eq_nil_iff.mpr fun i hi => ?_
      rw [if_neg (hlate i hi), hzero]
      rfl
    · rw [if_neg hzero]
      refine (filterMap_of_forall_some fun i hi => ?_).trans
        (by rw [List.length_map, List.length_range])
      rw [if_neg (hlate i hi), if_neg (by rw [beq_iff_eq]; omega)]

theorem split_shares {calls workers : Int} (hcalls : 0 ≤ calls) (hworkers : 1 ≤ workers) :
    ∃ parts, split calls workers = .ok parts ∧ Shares calls workers parts := by
  obtain ⟨calls, rfl⟩ := Int.eq_ofNat_of_zero_le hcalls
  obtain ⟨workers, rfl⟩ := Int.eq_ofNat_of_zero_le (Int.le_trans Int.one_nonneg hworkers)
  have hpositive : 0 < workers := by omega
  refine ⟨_, split_eq calls hpositive, ?_⟩
  have hextra := Nat.mod_lt calls hpositive
  have hcalls := Nat.div_add_mod calls workers
  generalize calls % workers = extra at hextra hcalls ⊢
  generalize calls / workers = base at hcalls ⊢
  by_cases hzero : base = 0
  · -- There are fewer calls than workers, and each has one.
    subst hzero
    rw [Nat.mul_zero, Nat.zero_add] at hcalls
    subst hcalls
    rw [if_pos rfl, List.append_nil]
    refine ⟨?_, ?_, ?_, ?_, ?_⟩
    · rw [List.length_replicate]
      omega
    · intro part hpart
      rw [List.eq_of_mem_replicate hpart]
      omega
    · exact List.pairwise_replicate.mpr (.inr (le_refl _))
    · intro part hpart other hother
      rw [List.eq_of_mem_replicate hpart, List.eq_of_mem_replicate hother]
      omega
    · rw [List.sum_replicate]
      simp
  · rw [if_neg hzero]
    have hmany : workers ≤ calls := by
      have hmul : workers * 1 ≤ workers * base := Nat.mul_le_mul_left _ (by omega)
      omega
    have hpart : ∀ part ∈ List.replicate extra ((base : Int) + 1) ++
        List.replicate (workers - extra) (base : Int), part = base + 1 ∨ part = base := by
      intro part hpart
      exact (List.mem_append.mp hpart).imp List.eq_of_mem_replicate List.eq_of_mem_replicate
    refine ⟨?_, ?_, ?_, ?_, ?_⟩
    · rw [List.length_append, List.length_replicate, List.length_replicate]
      omega
    · intro part hmem
      have := hpart part hmem
      omega
    · refine List.pairwise_append.mpr ⟨List.pairwise_replicate.mpr (.inr (le_refl _)),
        List.pairwise_replicate.mpr (.inr (le_refl _)), ?_⟩
      intro part hmem other hother
      rw [List.eq_of_mem_replicate hmem, List.eq_of_mem_replicate hother]
      omega
    · intro part hmem other hother
      have := hpart part hmem
      have := hpart other hother
      omega
    · rw [List.sum_append, List.sum_replicate, List.sum_replicate, nsmul_eq_mul, nsmul_eq_mul,
        Nat.cast_sub (Nat.le_of_lt hextra), ← hcalls]
      push_cast
      ring

/-! ## Checking -/

/-- What the check says of numbers. -/
structure Reports (numbers : List (String × Int)) (step start : Int) : Prop where
  contiguous : (check numbers step start).contiguous = true ↔
    (numbers.map (·.2)).Perm (progression step start numbers.length)
  unique : (check numbers step start).unique = true ↔ (numbers.map (·.1)).Nodup
  duplicates : (check numbers step start).duplicates + (numbers.map (·.1)).toFinset.card =
    numbers.length
  unordered : ∀ others : List (String × Int), others.Perm numbers →
    check others step start = check numbers step start

theorem pairwise_progression {step : Int} (hstep : 1 ≤ step) (start : Int) (n : Nat) :
    (progression step start n).Pairwise (· ≤ ·) := by
  unfold progression
  rw [List.pairwise_map]
  refine List.pairwise_lt_range.imp ?_
  intro i j hij
  have hmul : step * ((i : Int) + 1) ≤ step * ((j : Int) + 1) :=
    Int.mul_le_mul_of_nonneg_left (by omega) (by omega)
  omega

theorem length_progression (step start : Int) (n : Nat) :
    (progression step start n).length = n := by
  unfold progression
  rw [List.length_map, List.length_range]

theorem getLast?_progression (step start : Int) (n : Nat) :
    ((progression step start n).getLast?).getD start = start + step * n := by
  cases n with
  | zero => simp [progression]
  | succ n =>
    unfold progression
    rw [List.range_succ, List.map_append, List.map_singleton, List.getLast?_append]
    simp

/-- Counters that are put in order are a progression just when they are its values. -/
theorem mergeSort_eq_progression_iff {step : Int} (hstep : 1 ≤ step) (start : Int)
    (counters : List Int) (n : Nat) :
    counters.mergeSort (fun a b => decide (a ≤ b)) = progression step start n ↔
      counters.Perm (progression step start n) := by
  constructor
  · intro h
    rw [← h]
    exact (List.mergeSort_perm _ _).symm
  · intro h
    have hsorted : (counters.mergeSort fun a b => decide (a ≤ b)).Pairwise (· ≤ ·) :=
      List.pairwise_mergeSort' (· ≤ ·) counters
    exact ((List.mergeSort_perm _ _).trans h).eq_of_pairwise' hsorted
      (pairwise_progression hstep start n)

theorem mergeSort_congr {counters others : List Int} (h : counters.Perm others) :
    counters.mergeSort (fun a b => decide (a ≤ b)) =
      others.mergeSort fun a b => decide (a ≤ b) := by
  have hperm := (List.mergeSort_perm counters fun a b => decide (a ≤ b)).trans
    (h.trans (List.mergeSort_perm others fun a b => decide (a ≤ b)).symm)
  exact hperm.eq_of_pairwise' (List.pairwise_mergeSort' (· ≤ ·) counters)
    (List.pairwise_mergeSort' (· ≤ ·) others)

theorem check_reports (numbers : List (String × Int)) {step : Int} (hstep : 1 ≤ step)
    (start : Int) : Reports numbers step start where
  contiguous := by
    have hiff := mergeSort_eq_progression_iff hstep start (numbers.map (·.2)) numbers.length
    unfold check
    dsimp only
    rw [beq_iff_eq, (List.mergeSort_perm ..).length_eq, List.length_map]
    exact hiff
  unique := by
    unfold check
    dsimp only
    rw [beq_iff_eq, length_eraseDups_eq_iff]
  duplicates := by
    have hle := length_eraseDups_le (numbers.map (·.1))
    unfold check
    dsimp only
    rw [← length_eraseDups, List.length_map]
    rw [List.length_map] at hle
    omega
  unordered := by
    intro others hperm
    have hvalues := hperm.map (·.1)
    have hdistinct : (others.map (·.1)).eraseDups.length = (numbers.map (·.1)).eraseDups.length := by
      rw [length_eraseDups, length_eraseDups, List.toFinset_eq_of_perm _ _ hvalues]
    unfold check
    dsimp only
    rw [hdistinct, hvalues.length_eq, mergeSort_congr (hperm.map (·.2))]

/-- Numbers that are all different, with the first counters after the start, pass. -/
theorem check_of_exact {numbers : List (String × Int)} {step start : Int} (hstep : 1 ≤ step)
    (hvalues : (numbers.map (·.1)).Nodup)
    (hcounters : (numbers.map (·.2)).Perm (progression step start numbers.length)) :
    check numbers step start =
      { generated := numbers.length, unique := true, duplicates := 0, contiguous := true
        lastCounter := start + step * numbers.length } := by
  have hsorted := (mergeSort_eq_progression_iff hstep start _ _).mpr hcounters
  have hdistinct := length_eraseDups_eq_iff.mpr hvalues
  unfold check
  dsimp only
  rw [hsorted, hdistinct, List.length_map, length_progression, getLast?_progression]
  simp only [beq_self_eq_true, Nat.sub_self]

end SerialNumbers.Contention
