/-
  SerialNumbers.Proofs.Text.Digit

  Numbers as texts of digits.  Zeros in front change nothing about the number
  that is read, so a number can be told from its text (`zeroFill_inj`); and one
  that is small enough has a text of just the given width.  A text of digits that
  is filled up stays one (`IsNumber.zeroFill`).
-/
import Mathlib
import SerialNumbers.Text.Digit

namespace SerialNumbers.Text

/-! ## Characters of ASCII -/

/-- What holds of every code of ASCII holds of its characters. -/
theorem forall_ascii {p : Char → Bool}
    (h : ((List.range 0x80).all fun code => p (Char.ofNat code)) = true) {c : Char}
    (hc : c.toNat < 0x80) : p c = true := by
  have hcode := List.all_eq_true.mp h c.toNat (List.mem_range.mpr hc)
  rwa [Char.ofNat_toNat] at hcode

/-- In ASCII there are no other digits than the ten. -/
theorem isDigit_of_isDecimalDigit {c : Char} (hlow : c.toNat < 0x80)
    (h : isDecimalDigit c = true) : c.isDigit = true := by
  have hcode := forall_ascii (p := fun c => !isDecimalDigit c || c.isDigit) (by decide +kernel) hlow
  simpa [h] using hcode

/-! ## Numbers -/

/-- The decimal text of a number, behind as many zeros as the width asks for. -/
theorem toList_zeroFill (width n : Nat) :
    (zeroFill width (toString n)).toList =
      List.replicate (width - (Nat.toDigits 10 n).length) '0' ++ Nat.toDigits 10 n := by
  have hdigits : (toString n).toList = Nat.toDigits 10 n := Nat.toList_repr
  unfold zeroFill
  dsimp only
  rw [hdigits]
  -- A number without a sign has the zeros in front of all of it.
  split
  · rename_i rest hplus
    have hmem : '+' ∈ Nat.toDigits 10 n := by
      rw [hplus]
      exact List.mem_cons_self
    have hdigit := Nat.isDigit_of_mem_toDigits (by decide) (by decide) hmem
    cases hdigit
  · rename_i rest hminus
    have hmem : '-' ∈ Nat.toDigits 10 n := by
      rw [hminus]
      exact List.mem_cons_self
    have hdigit := Nat.isDigit_of_mem_toDigits (by decide) (by decide) hmem
    cases hdigit
  · rw [String.toList_ofList]

/-- A number can be told from its text, however many zeros are in front. -/
theorem zeroFill_inj {width width' n m : Nat}
    (h : (zeroFill width (toString n)).toList = (zeroFill width' (toString m)).toList) : n = m := by
  -- Zeros in front add nothing to what is read.
  have hread (w k : Nat) : Nat.ofDigitChars 10 (zeroFill w (toString k)).toList 0 = k := by
    rw [toList_zeroFill, Nat.ofDigitChars_append, Nat.ofDigitChars_replicate_zero, Nat.mul_zero,
      Nat.ofDigitChars_ten_toDigits]
  rw [← hread width n, h, hread]

/-- A number that is small enough has a text of just the width. -/
theorem length_natText {width n : Nat} (hwidth : 0 < width) (hn : n < 10 ^ width) :
    (natText width n).toList.length = width := by
  have hlength : (Nat.toDigits 10 n).length ≤ width :=
    (Nat.length_toDigits_le_iff (by decide) hwidth).mpr hn
  unfold natText
  rw [toList_zeroFill, List.length_append, List.length_replicate]
  omega

/-! ## Texts of digits -/

/-- The text has nothing but decimal digits, and at least one. -/
structure IsNumber (s : String) : Prop where
  digits : ∀ c ∈ s.toList, isDecimalDigit c = true
  length : 1 ≤ s.toList.length

theorem isDecimalDigit_of_isDigit {c : Char} (h : c.isDigit = true) : isDecimalDigit c = true := by
  have hcode : 0x30 ≤ c.toNat ∧ c.toNat < 0x30 + 10 := by
    simp only [Char.isDigit, Bool.and_eq_true, decide_eq_true_eq, ge_iff_le,
      UInt32.le_iff_toNat_le] at h
    exact ⟨h.1, Nat.lt_succ_of_le h.2⟩
  unfold isDecimalDigit digitValue? zeroCodes
  rw [List.find?_cons_of_pos (by simpa using hcode)]
  rfl

theorem isNumber_toString (n : Nat) : IsNumber (toString n) := by
  have hdigits : (toString n).toList = Nat.toDigits 10 n := Nat.toList_repr
  constructor
  · rw [hdigits]
    exact fun c hc =>
      isDecimalDigit_of_isDigit (Nat.isDigit_of_mem_toDigits (by decide) (by decide) hc)
  · rw [hdigits]
    exact Nat.length_toDigits_pos

theorem isNumber_toString_int {n : Int} (h : 0 ≤ n) : IsNumber (toString n) := by
  obtain ⟨n, rfl⟩ := Int.eq_ofNat_of_zero_le h
  exact isNumber_toString n

section

variable {s : String} (h : IsNumber s)

include h

/-- A text of digits has no sign, and is filled up at its front. -/
theorem IsNumber.toList_zeroFill (width : Nat) :
    (Text.zeroFill width s).toList = List.replicate (width - s.toList.length) '0' ++ s.toList := by
  unfold Text.zeroFill
  dsimp only
  split
  · rename_i rest hplus
    have hdigit := h.digits '+' (hplus ▸ List.mem_cons_self)
    exact absurd hdigit (by decide)
  · rename_i rest hminus
    have hdigit := h.digits '-' (hminus ▸ List.mem_cons_self)
    exact absurd hdigit (by decide)
  · rw [String.toList_ofList]

theorem IsNumber.zeroFill (width : Nat) : IsNumber (Text.zeroFill width s) := by
  constructor
  · rw [h.toList_zeroFill]
    intro c hc
    rcases List.mem_append.mp hc with hc | hc
    · rw [List.eq_of_mem_replicate hc]
      decide
    · exact h.digits c hc
  · rw [h.toList_zeroFill, List.length_append]
    exact Nat.le_add_left_of_le h.length

theorem IsNumber.length_zeroFill (width : Nat) :
    (Text.zeroFill width s).toList.length = max width s.toList.length := by
  rw [h.toList_zeroFill, List.length_append, List.length_replicate]
  omega

end

theorem isNumber_natText (width n : Nat) : IsNumber (natText width n) :=
  (isNumber_toString n).zeroFill width

/-- A small number has few digits. -/
theorem length_toString_le {width n : Nat} (hwidth : 0 < width) (hn : n < 10 ^ width) :
    (toString n).toList.length ≤ width := by
  have hdigits : (toString n).toList = Nat.toDigits 10 n := Nat.toList_repr
  rw [hdigits]
  exact (Nat.length_toDigits_le_iff (by decide) hwidth).mpr hn

end SerialNumbers.Text
