/-
  SerialNumbers.Proofs.Distinct

  Lists freed of repetitions, and names put in order.  Without repetitions every
  value of a list is there once (`nodup_eraseDups`), so how often the values
  occur adds up to the length of the list (`sum_count_eraseDups`), and a list is
  as long as without repetitions just when it has none
  (`length_eraseDups_eq_iff`).
-/
import Mathlib
import SerialNumbers.Failure

namespace SerialNumbers

/-! ## Repetitions -/

section

variable {α : Type} [DecidableEq α]

theorem nodup_eraseDups (l : List α) : l.eraseDups.Nodup := by
  -- What is left to go through gets shorter with each value that is kept.
  induction hn : l.length using Nat.strong_induction_on generalizing l with
  | h n ih =>
    cases l with
    | nil => exact List.nodup_nil
    | cons a rest =>
      rw [List.eraseDups_cons, List.nodup_cons]
      constructor
      · rw [List.mem_eraseDups, List.mem_filter]
        rintro ⟨-, hne⟩
        simp at hne
      · have hshorter := List.length_filter_le (fun b => !b == a) rest
        refine ih _ ?_ _ rfl
        rw [← hn, List.length_cons]
        exact Nat.lt_succ_of_le hshorter

theorem eraseDups_perm_dedup (l : List α) : l.eraseDups.Perm l.dedup :=
  (List.perm_ext_iff_of_nodup (nodup_eraseDups l) (List.nodup_dedup l)).mpr fun a => by
    rw [List.mem_eraseDups, List.mem_dedup]

/-- How often the values of a list occur adds up to its length. -/
theorem sum_count_eraseDups (l : List α) : (l.eraseDups.map fun a => l.count a).sum = l.length := by
  rw [((eraseDups_perm_dedup l).map _).sum_eq]
  exact List.sum_map_count_dedup_eq_length l

/-- The number of different values of a list. -/
theorem length_eraseDups (l : List α) : l.eraseDups.length = l.toFinset.card := by
  rw [(eraseDups_perm_dedup l).length_eq, List.card_toFinset]

theorem length_eraseDups_le (l : List α) : l.eraseDups.length ≤ l.length := by
  rw [length_eraseDups]
  exact List.toFinset_card_le l

theorem length_eraseDups_eq_iff {l : List α} : l.eraseDups.length = l.length ↔ l.Nodup := by
  rw [(eraseDups_perm_dedup l).length_eq, ← List.dedup_eq_self]
  exact ⟨(List.dedup_sublist l).eq_of_length, congrArg List.length⟩

end

/-! ## Order of names -/

namespace Failure

variable {keys : List String}

theorem sortedKeys_perm (keys : List String) : (sortedKeys keys).Perm keys :=
  List.mergeSort_perm ..

theorem mem_sortedKeys {key : String} : key ∈ sortedKeys keys ↔ key ∈ keys :=
  (sortedKeys_perm keys).mem_iff

/-- Names of which none comes twice are strictly in order. -/
theorem pairwise_sortedKeys (h : keys.Nodup) : (sortedKeys keys).Pairwise (· < ·) := by
  have hsorted : (sortedKeys keys).Pairwise fun a b => (!decide (b < a)) = true := by
    apply List.pairwise_mergeSort
    · intro a b c hab hbc
      simp only [Bool.not_eq_true', decide_eq_false_iff_not, not_lt] at hab hbc ⊢
      exact le_trans hab hbc
    · intro a b
      simp only [Bool.or_eq_true, Bool.not_eq_true', decide_eq_false_iff_not, not_lt]
      exact le_total a b
  have hdistinct := ((sortedKeys_perm keys).nodup_iff).mpr h
  refine (hsorted.and hdistinct).imp ?_
  rintro a b ⟨hle, hne⟩
  simp only [Bool.not_eq_true', decide_eq_false_iff_not, not_lt] at hle
  exact lt_of_le_of_ne hle hne

end Failure

end SerialNumbers
