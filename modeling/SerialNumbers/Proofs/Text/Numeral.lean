/-
  SerialNumbers.Proofs.Text.Numeral

  Numerals, which look like digits.  A text can be read as a number when each of
  its characters is a decimal digit (`digitsValue?_eq_none`).  Upper case makes
  no text shorter, and nothing of ASCII out of a numeral beyond ASCII
  (`exists_high_of_isNumeral`).
-/
import Mathlib
import SerialNumbers.Proofs.Table
import SerialNumbers.Text.Case
import SerialNumbers.Text.Digit

namespace SerialNumbers.Text

/-! ## Reading -/

/-- A text cannot be read as a number where it has a character that is no decimal digit. -/
theorem digitsValue?_eq_none {cs : List Char} :
    digitsValue? cs = none ↔ ∃ c ∈ cs, isDecimalDigit c = false := by
  unfold digitsValue?
  generalize 0 = total
  induction cs generalizing total with
  | nil => simp
  | cons c cs ih =>
    rw [List.foldlM_cons]
    cases hdigit : digitValue? c with
    | none =>
      have hc : isDecimalDigit c = false := by
        unfold isDecimalDigit
        rw [hdigit]
        rfl
      exact ⟨fun _ => ⟨c, List.mem_cons_self, hc⟩, fun _ => rfl⟩
    | some digit =>
      have hc : isDecimalDigit c = true := by
        unfold isDecimalDigit
        rw [hdigit]
        rfl
      refine (ih (10 * total + digit)).trans ⟨?_, ?_⟩
      · rintro ⟨d, hd, hplain⟩
        exact ⟨d, List.mem_cons_of_mem c hd, hplain⟩
      · rintro ⟨d, hd, hplain⟩
        rcases List.mem_cons.mp hd with rfl | hd
        · rw [hc] at hplain
          cases hplain
        · exact ⟨d, hd, hplain⟩

/-- Each decimal digit is a numeral. -/
theorem isNumeral_of_isDecimalDigit {c : Char} (h : isDecimalDigit c = true) :
    isNumeral c = true := by
  unfold isNumeral
  rw [h]
  rfl

/-- A numeral that is no decimal digit is beyond ASCII. -/
theorem high_of_isNumeral {c : Char} (h : isNumeral c = true) (hplain : isDecimalDigit c = false) :
    0x80 ≤ c.toNat := by
  unfold isNumeral at h
  rw [hplain, Bool.false_or] at h
  obtain ⟨span, hspan, hholds⟩ := List.any_eq_true.mp h
  have hhigh : ∀ span ∈ numeralSpans, 0x80 ≤ span.1 := by decide
  exact Nat.le_trans (hhigh span hspan) (Span.holds_iff.mp hholds).1

/-! ## Upper case -/

theorem upperChars_ne_nil (c : Char) : upperChars c ≠ [] := by
  have hspecial : ∀ e ∈ upperSpecial, e.2 ≠ [] := by decide +kernel
  unfold upperChars
  dsimp only
  split
  · exact List.cons_ne_nil _ _
  · split
    · rename_i codes hcodes
      rw [ne_eq, List.map_eq_nil_iff]
      exact hspecial _ (Table.mem_of_lookup hcodes)
    · exact List.cons_ne_nil _ _

/-- Upper case makes no text shorter. -/
theorem length_le_length_upperList (cs : List Char) : cs.length ≤ (upperList cs).length := by
  induction cs with
  | nil => exact Nat.le_refl 0
  | cons c cs ih =>
    have hc := List.length_pos_iff.mpr (upperChars_ne_nil c)
    rw [upperList_cons, List.length_append, List.length_cons]
    omega

/-- The images of the runs are characters beyond ASCII, but for those of two letters. -/
theorem upperRuns_high : ∀ run ∈ upperRuns,
    (0x80 ≤ run.first + run.shift ∧ (run.last + run.shift < 0xD800 ∨
      0xDFFF < run.first + run.shift ∧ run.last + run.shift < 0x110000)) ∨
    (run.first = run.last ∧ isNumeral (Char.ofNat run.first) = false) := by
  decide +kernel

theorem upperSpecial_high : ∀ e ∈ upperSpecial,
    (∃ code ∈ e.2, 0x80 ≤ (Char.ofNat code).toNat) ∨ isNumeral (Char.ofNat e.1) = false := by
  decide +kernel

/-- The image of a numeral under a run is beyond ASCII. -/
theorem high_of_image? {run : CaseRun} (hrun : run ∈ upperRuns) {c : Char} {code : Nat}
    (hc : isNumeral c = true) (h : run.image? c.toNat = some code) :
    0x80 ≤ (Char.ofNat code).toNat := by
  unfold CaseRun.image? at h
  split at h
  · rename_i hholds
    simp only [Bool.and_eq_true, decide_eq_true_eq] at hholds
    obtain ⟨⟨hfirst, hlast⟩, -⟩ := hholds
    have hcode : (c.toNat + run.shift).toNat = code := Option.some.inj h
    rcases upperRuns_high run hrun with ⟨hhigh, hvalid⟩ | ⟨hsingle, hplain⟩
    · have hchar : code.isValidChar := by
        unfold Nat.isValidChar
        omega
      rw [Char.toNat_ofNat, if_pos hchar]
      omega
    · have hself : Char.ofNat run.first = c := by
        have hfirst : run.first = c.toNat := by omega
        rw [hfirst, Char.ofNat_toNat]
      rw [hself, hc] at hplain
      cases hplain
  · cases h

/-- The upper-case form of a numeral beyond ASCII goes beyond ASCII. -/
theorem exists_high_of_isNumeral {c : Char} (hc : isNumeral c = true) (hhigh : 0x80 ≤ c.toNat) :
    ∃ d ∈ upperChars c, 0x80 ≤ d.toNat := by
  unfold upperChars
  dsimp only
  rw [if_neg (Nat.not_lt.mpr hhigh)]
  cases hspecial : upperSpecial.lookup c.toNat with
  | some codes =>
    dsimp only
    rcases upperSpecial_high _ (Table.mem_of_lookup hspecial) with ⟨code, hcode, hbeyond⟩ | hplain
    · exact ⟨_, List.mem_map_of_mem hcode, hbeyond⟩
    · rw [Char.ofNat_toNat, hc] at hplain
      cases hplain
  | none =>
    refine ⟨_, List.mem_singleton_self _, ?_⟩
    cases himage : upperRuns.findSome? (·.image? c.toNat) with
    | none => rwa [Option.getD_none, Char.ofNat_toNat]
    | some code =>
      obtain ⟨run, hrun, hmaps⟩ := List.exists_of_findSome?_eq_some himage
      exact high_of_image? hrun hc hmaps

end SerialNumbers.Text
