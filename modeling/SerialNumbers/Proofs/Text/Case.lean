/-
  SerialNumbers.Proofs.Text.Case

  Lower case once is lower case for good.  The images of the runs of the case
  table fall between the runs, so what has become a small letter is one
  (`lower_lower`).
-/
import Mathlib
import SerialNumbers.Text.Case

namespace SerialNumbers.Text

/-! ## Runs -/

/-- The places from `low` to `high` fall outside of the run: before it, behind it, or, where
    only every other place counts, between its places. -/
def CaseRun.misses (other : CaseRun) (low high : Nat) (alternate : Bool) : Bool :=
  !(other.first.ble high && low.ble other.last) ||
    alternate && other.step == 2 && (low + other.first) % 2 == 1

/-- Whether the images of a run are in every other place at most. -/
def CaseRun.alternates (run : CaseRun) : Bool :=
  run.step == 2 || run.first == run.last

/-- The images of all runs fall outside of all runs. -/
theorem lowerRuns_misses : (lowerRuns.all fun run => lowerRuns.all fun other =>
    other.misses (run.first + run.shift).toNat (run.last + run.shift).toNat run.alternates) =
      true := by
  decide +kernel

/-- The images of the runs are characters, no capitals of ASCII, and no dotted capital I. -/
theorem lowerRuns_image : ∀ run ∈ lowerRuns, run.first ≤ run.last ∧ 0 < run.step ∧
    0x61 ≤ run.first + run.shift ∧
    (run.last + run.shift < 0x130 ∨ 0x130 < run.first + run.shift) ∧
    (run.last + run.shift < 0xD800 ∨
      0xDFFF < run.first + run.shift ∧ run.last + run.shift < 0x110000) := by
  decide +kernel

theorem CaseRun.image?_eq_some {run : CaseRun} {code image : Nat}
    (h : run.image? code = some image) : run.first ≤ code ∧ code ≤ run.last ∧
      (code - run.first) % run.step = 0 ∧ image = (code + run.shift).toNat := by
  unfold image? at h
  split at h
  · rename_i hholds
    simp only [Bool.and_eq_true, decide_eq_true_eq, beq_iff_eq] at hholds
    exact ⟨hholds.1.1, hholds.1.2, hholds.2, (Option.some.inj h).symm⟩
  · cases h

/-- The image of a run has no image of its own. -/
theorem findSome?_image {run : CaseRun} (hrun : run ∈ lowerRuns) {code image : Nat}
    (h : run.image? code = some image) : lowerRuns.findSome? (·.image? image) = none := by
  obtain ⟨hfirst, hlast, hplace, himage⟩ := run.image?_eq_some h
  obtain ⟨hrange, hstep, hlow, -, -⟩ := lowerRuns_image run hrun
  rw [List.findSome?_eq_none_iff]
  intro other hother
  cases hnone : other.image? image with
  | none => rfl
  | some _ =>
    obtain ⟨hfirst', hlast', hplace', -⟩ := other.image?_eq_some hnone
    have hmisses := List.all_eq_true.mp (List.all_eq_true.mp lowerRuns_misses run hrun) other hother
    unfold CaseRun.misses at hmisses
    rcases Bool.or_eq_true_iff.mp hmisses with hapart | hbetween
    · rw [Bool.not_eq_true', Bool.and_eq_false_iff] at hapart
      simp only [← Bool.not_eq_true, Nat.ble_eq] at hapart
      omega
    · simp only [Bool.and_eq_true, beq_iff_eq, CaseRun.alternates, Bool.or_eq_true] at hbetween
      obtain ⟨⟨halternate, htwo⟩, hodd⟩ := hbetween
      rw [htwo] at hplace'
      rcases halternate with hsteps | hsingle
      · rw [hsteps] at hplace
        omega
      · omega

/-! ## Small letters -/

/-- The character stays as it is in lower case. -/
structure IsSmall (c : Char) : Prop where
  ne_sigma : c.toNat ≠ 0x3A3
  chars : lowerChars c = [c]

/-- A text of small letters stays as it is. -/
theorem lowerFrom_of_isSmall {cs : List Char} (h : ∀ c ∈ cs, IsSmall c) (before : List Char) :
    lowerFrom before cs = cs := by
  induction cs generalizing before with
  | nil => rfl
  | cons c rest ih =>
    have hc := h c List.mem_cons_self
    have hsigma : (c.toNat == 0x3A3) = false := beq_eq_false_iff_ne.mpr hc.ne_sigma
    rw [lowerFrom, ih (fun d hd => h d (List.mem_cons_of_mem c hd)), hsigma, hc.chars]
    rfl

/-- A character of ASCII is small unless it is a capital letter. -/
theorem isSmall_of_ascii {c : Char} (hascii : c.toNat < 0x80)
    (h : ¬ (0x41 ≤ c.toNat ∧ c.toNat ≤ 0x5A)) : IsSmall c := by
  refine ⟨by omega, ?_⟩
  have hletter : (decide (0x41 ≤ c.toNat) && decide (c.toNat ≤ 0x5A)) = false := by
    rw [Bool.eq_false_iff, ne_eq, Bool.and_eq_true, decide_eq_true_eq, decide_eq_true_eq]
    exact h
  unfold lowerChars
  dsimp only
  rw [if_pos hascii, hletter]
  rfl

/-- Beyond ASCII a character is small if no run has it. -/
theorem isSmall_of_findSome? {c : Char} (hbeyond : 0x80 ≤ c.toNat) (hdot : c.toNat ≠ 0x130)
    (h : lowerRuns.findSome? (·.image? c.toNat) = none) (hsigma : c.toNat ≠ 0x3A3) : IsSmall c := by
  have hne : (c.toNat == 0x130) = false := beq_eq_false_iff_ne.mpr hdot
  refine ⟨hsigma, ?_⟩
  unfold lowerChars
  dsimp only
  rw [if_neg (by omega), hne, h, Option.getD_none, Char.ofNat_toNat]
  rfl

/-- The image of a run is small. -/
theorem isSmall_of_image? {run : CaseRun} (hrun : run ∈ lowerRuns) {code image : Nat}
    (h : run.image? code = some image) : IsSmall (Char.ofNat image) := by
  obtain ⟨hfirst, hlast, -, himage⟩ := run.image?_eq_some h
  obtain ⟨-, -, hlow, hdot, hvalid⟩ := lowerRuns_image run hrun
  have hnone := findSome?_image hrun h
  have hcode : (Char.ofNat image).toNat = image := by
    have hchar : image.isValidChar := by
      unfold Nat.isValidChar
      omega
    rw [Char.toNat_ofNat, if_pos hchar]
  rcases Nat.lt_or_ge image 0x80 with hascii | hbeyond
  · exact isSmall_of_ascii (by omega) (by omega)
  · refine isSmall_of_findSome? (by omega) (by omega) (by rw [hcode]; exact hnone) ?_
    -- The capital sigma is in a run, so it is no image.
    intro hsigma
    rw [hcode] at hsigma
    rw [hsigma] at hnone
    exact absurd hnone (by decide +kernel)

/-- What a character becomes in lower case is small. -/
theorem isSmall_of_mem_lowerChars {c d : Char} (hsigma : c.toNat ≠ 0x3A3)
    (hd : d ∈ lowerChars c) : IsSmall d := by
  unfold lowerChars at hd
  dsimp only at hd
  split at hd
  · rename_i hascii
    rw [List.mem_singleton] at hd
    split at hd
    · rename_i hletter
      rw [Bool.and_eq_true, decide_eq_true_eq, decide_eq_true_eq] at hletter
      have hcode : d.toNat = c.toNat + 0x20 := by
        have hchar : (c.toNat + 0x20).isValidChar := by
          unfold Nat.isValidChar
          omega
        rw [hd, Char.toNat_ofNat, if_pos hchar]
      exact isSmall_of_ascii (by omega) (by omega)
    · rename_i hother
      rw [Bool.and_eq_true, decide_eq_true_eq, decide_eq_true_eq] at hother
      rw [hd]
      exact isSmall_of_ascii hascii hother
  · rename_i hbeyond
    split at hd
    · rcases List.mem_cons.mp hd with rfl | hd
      · exact isSmall_of_ascii (by decide) (by decide)
      · rw [List.mem_singleton.mp hd]
        exact isSmall_of_findSome? (by decide) (by decide) (by decide +kernel) (by decide)
    · rename_i hdot
      rw [List.mem_singleton] at hd
      cases himage : lowerRuns.findSome? (·.image? c.toNat) with
      | none =>
        rw [himage, Option.getD_none, Char.ofNat_toNat] at hd
        rw [hd]
        exact isSmall_of_findSome? (by omega) (by simpa using hdot) himage hsigma
      | some image =>
        obtain ⟨run, hrun, hmaps⟩ := List.exists_of_findSome?_eq_some himage
        rw [himage, Option.getD_some] at hd
        rw [hd]
        exact isSmall_of_image? hrun hmaps

/-- Lower case leaves small letters only, whatever stands before. -/
theorem isSmall_of_mem_lowerFrom {cs before : List Char} {d : Char}
    (hd : d ∈ lowerFrom before cs) : IsSmall d := by
  induction cs generalizing before with
  | nil => exact absurd hd List.not_mem_nil
  | cons c rest ih =>
    rw [lowerFrom] at hd
    rcases List.mem_append.mp hd with hd | hd
    · split at hd
      · -- The two small sigmas.
        rw [List.mem_singleton.mp hd]
        split
        · exact isSmall_of_findSome? (by decide) (by decide) (by decide +kernel) (by decide)
        · exact isSmall_of_findSome? (by decide) (by decide) (by decide +kernel) (by decide)
      · rename_i hsigma
        exact isSmall_of_mem_lowerChars (by simpa using hsigma) hd
    · exact ih hd

theorem lower_lower (s : String) : lower (lower s) = lower s := by
  unfold lower lowerList
  rw [String.toList_ofList]
  rw [lowerFrom_of_isSmall fun c hc => isSmall_of_mem_lowerFrom hc]

end SerialNumbers.Text
