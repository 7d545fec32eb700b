/-
  SerialNumbers.Proofs.Variable.Width

  Parameters that are read as widths.  A width can be read unless the parameter
  looks like a number and is none, or has too many digits
  (`width?_eq_error`); nothing else about a parameter can fail.  The names of the
  formats are no such parameters, so that it makes no difference whether a
  parameter is tried as a name first or as a width (`Builtin.readable_of_format?`).
-/
import SerialNumbers.Proofs.Text.Numeral
import SerialNumbers.Variable.Resolution

namespace SerialNumbers

open Text

/-- A parameter that looks like a number and cannot be read as one, and why. -/
inductive Unreadable (parameter : String) : BadValue → Prop where
  /-- All of it looks like digits, and not all of it is. -/
  | numeral {c : Char} (numerals : ∀ c ∈ parameter.toList, isNumeral c = true)
      (member : c ∈ parameter.toList) (plain : isDecimalDigit c = false) :
      Unreadable parameter (.numeral parameter)
  /-- There are more digits than are read. -/
  | tooLong (digits : ∀ c ∈ parameter.toList, isDecimalDigit c = true)
      (long : maxDigits < parameter.length) :
      Unreadable parameter (.longNumeral parameter.length maxDigits)

/-- A width fails to be read just where the parameter looks like a number and is not readable. -/
theorem width?_eq_error {most : Nat} {parameter : String} {e : Failure} :
    width? most parameter = .error e ↔ ∃ cause, e = .value cause ∧ Unreadable parameter cause := by
  unfold width?
  dsimp only
  constructor
  · intro h
    split at h
    · cases h
    · rename_i hlike
      rw [Bool.or_eq_true, Bool.not_eq_true', Bool.eq_false_iff, not_or, not_not,
        List.all_eq_true] at hlike
      split at h
      · rename_i hvalue
        obtain ⟨c, hc, hplain⟩ := digitsValue?_eq_none.mp hvalue
        exact ⟨_, (Except.error.inj h).symm, .numeral hlike.2 hc hplain⟩
      · rename_i n hvalue
        have hdigits (c) (hc : c ∈ parameter.toList) : isDecimalDigit c = true := by
          by_contra hplain
          rw [digitsValue?_eq_none.mpr ⟨c, hc, Bool.eq_false_iff.mpr hplain⟩] at hvalue
          cases hvalue
        split at h
        · rename_i hlong
          rw [String.length_toList] at hlong h
          exact ⟨_, (Except.error.inj h).symm, .tooLong hdigits hlong⟩
        · cases h
  · -- Either way it looks like a number, so that it is read.
    have hread {c : Char} (hc : c ∈ parameter.toList)
        (hall : ∀ c ∈ parameter.toList, isNumeral c = true) :
        ¬(parameter.toList.isEmpty || !parameter.toList.all isNumeral) = true := by
      have hnonempty : parameter.toList.isEmpty = false :=
        List.isEmpty_eq_false_iff.mpr (List.ne_nil_of_mem hc)
      rw [hnonempty, List.all_eq_true.mpr hall]
      exact Bool.false_ne_true
    rintro ⟨cause, rfl, hcause⟩
    cases hcause with
    | numeral hall hc hplain =>
      rw [if_neg (hread hc hall), digitsValue?_eq_none.mpr ⟨_, hc, hplain⟩]
    | tooLong hdigits hlong =>
      rw [← String.length_toList] at hlong
      obtain ⟨c, hc⟩ := List.exists_mem_of_length_pos (Nat.zero_lt_of_lt hlong)
      rw [if_neg (hread hc fun c hc => isNumeral_of_isDecimalDigit (hdigits c hc))]
      cases hvalue : digitsValue? parameter.toList with
      | none =>
        obtain ⟨c, hc, hplain⟩ := digitsValue?_eq_none.mp hvalue
        rw [hdigits c hc] at hplain
        cases hplain
      | some n =>
        dsimp only
        rw [if_pos hlong, String.length_toList]

/-- The names of formats are short and of ASCII. -/
theorem Builtin.names_formats (b : Builtin) : ∀ e ∈ b.formats,
    e.1.toList.length ≤ 8 ∧ e.1.toList.all (fun c => decide (c.toNat < 0x80)) = true := by
  cases b <;> decide +kernel

/-- The name of a format can be read, as a width or as something else. -/
theorem Builtin.readable_of_format? {b : Builtin} {parameter : String} {format : Format}
    (h : b.format? parameter = some format) (cause : BadValue) : ¬Unreadable parameter cause := by
  obtain ⟨hshort, hascii⟩ := b.names_formats _ (Table.mem_of_lookup h)
  have hupper : (upper parameter).toList = upperList parameter.toList := String.toList_ofList
  dsimp only at hshort hascii
  rw [hupper] at hshort hascii
  rw [List.all_eq_true] at hascii
  intro hunreadable
  cases hunreadable with
  | @numeral c hall hc hplain =>
    -- Upper case does not bring a numeral beyond ASCII back to ASCII.
    obtain ⟨d, hd, hhigh⟩ :=
      exists_high_of_isNumeral (hall c hc) (high_of_isNumeral (hall c hc) hplain)
    have hlow := of_decide_eq_true (hascii d (List.mem_flatMap.mpr ⟨c, hc, hd⟩))
    omega
  | tooLong hdigits hlong =>
    have hlength := length_le_length_upperList parameter.toList
    rw [String.length_toList] at hlength
    unfold maxDigits at hlong
    omega

end SerialNumbers
