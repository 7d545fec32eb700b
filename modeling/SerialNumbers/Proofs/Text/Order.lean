/-
  SerialNumbers.Proofs.Text.Order

  The order of texts of digits.  Texts of one width come in the order of the
  numbers that they show (`Shows.lt_iff`), and numbers written one behind the
  other show one number, to which the first of them counts most
  (`Shows.append`).
-/
import SerialNumbers.Proofs.Text.Digit

namespace SerialNumbers.Text

/-- The text has so many digits, and they show a number. -/
structure Shows (s : String) (width n : Nat) : Prop where
  digits : ∀ c ∈ s.toList, c.isDigit = true
  length : s.toList.length = width
  number : Nat.ofDigitChars 10 s.toList 0 = n

/-! ## Numbers that are written -/

/-- A number that is small enough shows itself in a text of the given width. -/
theorem shows_natText {width n : Nat} (hwidth : 0 < width) (hn : n < 10 ^ width) :
    Shows (natText width n) width n := by
  refine ⟨?_, length_natText hwidth hn, ?_⟩
  · unfold natText
    rw [toList_zeroFill]
    intro c hc
    rcases List.mem_append.mp hc with hzero | hdigit
    · rw [List.eq_of_mem_replicate hzero]
      rfl
    · exact Nat.isDigit_of_mem_toDigits (by decide) (by decide) hdigit
  · unfold natText
    rw [toList_zeroFill, Nat.ofDigitChars_append, Nat.ofDigitChars_replicate_zero, Nat.mul_zero,
      Nat.ofDigitChars_ten_toDigits]

/-- A number has at least one digit, so nothing is filled up to the width 1. -/
theorem natText_one (n : Nat) : natText 1 n = toString n := by
  have hdigits : (toString n).toList = Nat.toDigits 10 n := Nat.toList_repr
  have hlength : 0 < (Nat.toDigits 10 n).length := Nat.length_toDigits_pos
  have hnone : 1 - (Nat.toDigits 10 n).length = 0 := by omega
  apply String.toList_injective
  unfold natText
  rw [toList_zeroFill, hnone, hdigits]
  rfl

/-- What a text of digits shows is what is read from it. -/
theorem digitsValue?_of_digits {cs : List Char} (h : ∀ c ∈ cs, c.isDigit = true) :
    digitsValue? cs = some (Nat.ofDigitChars 10 cs 0) := by
  -- The reading goes on from the number that the digits before have shown.
  have hfrom (n : Nat) : cs.foldlM (fun total c => (digitValue? c).map (10 * total + ·)) n =
      some (Nat.ofDigitChars 10 cs n) := by
    induction cs generalizing n with
    | nil => rfl
    | cons c rest ih =>
      have hdigit : digitValue? c = some (c.toNat - '0'.toNat) := by
        obtain ⟨hlow, hhigh⟩ := Char.isDigit_iff_toNat.mp (h c List.mem_cons_self)
        have hcode : 0x30 ≤ c.toNat ∧ c.toNat < 0x30 + 10 := ⟨hlow, Nat.lt_succ_of_le hhigh⟩
        unfold digitValue? zeroCodes
        rw [List.find?_cons_of_pos (by simpa using hcode)]
        rfl
      rw [List.foldlM_cons, hdigit, Nat.ofDigitChars_cons]
      exact ih (fun d hd => h d (List.mem_cons_of_mem c hd)) _
  exact hfrom 0

section

variable {s t : String} {width n : Nat}

theorem Shows.read (h : Shows s width n) : digitsValue? s.toList = some n := by
  rw [digitsValue?_of_digits h.digits, h.number]

/-! ## Order -/

/-- Numbers one behind the other: the digits of the second shift the first to the front. -/
theorem Shows.append {width' m : Nat} (hs : Shows s width n) (ht : Shows t width' m) :
    Shows (s ++ t) (width + width') (10 ^ width' * n + m) := by
  refine ⟨?_, ?_, ?_⟩
  · rw [String.toList_append]
    intro c hc
    exact (List.mem_append.mp hc).elim (hs.digits c) (ht.digits c)
  · rw [String.toList_append, List.length_append, hs.length, ht.length]
  · rw [String.toList_append, Nat.ofDigitChars_append, Nat.ofDigitChars_eq_ofDigitChars_zero,
      hs.number, ht.number, ht.length]

/-- The first digit counts as often as the digits behind it can show a number. -/
theorem ofDigitChars_first (c : Char) (cs : List Char) : Nat.ofDigitChars 10 (c :: cs) 0 =
    10 ^ cs.length * (c.toNat - '0'.toNat) + Nat.ofDigitChars 10 cs 0 := by
  rw [Nat.ofDigitChars_cons, Nat.ofDigitChars_eq_ofDigitChars_zero, Nat.mul_zero, Nat.zero_add]

/-- A text of digits shows less than any number with one more digit. -/
theorem ofDigitChars_lt {cs : List Char} (h : ∀ c ∈ cs, c.isDigit = true) :
    Nat.ofDigitChars 10 cs 0 < 10 ^ cs.length := by
  induction cs with
  | nil => exact Nat.one_pos
  | cons c rest ih =>
    have hrest := ih fun d hd => h d (List.mem_cons_of_mem c hd)
    have hcode := Char.isDigit_iff_toNat.mp (h c List.mem_cons_self)
    have hdigit : c.toNat - '0'.toNat ≤ 9 := Nat.sub_le_sub_right hcode.2 _
    rw [ofDigitChars_first, List.length_cons, Nat.pow_succ]
    have hshift := Nat.mul_le_mul_left (10 ^ rest.length) hdigit
    omega

/-- Of two lists of digits of one length, that with the first smaller digit shows less. -/
theorem lt_iff_ofDigitChars_lt {xs ys : List Char} (hxs : ∀ c ∈ xs, c.isDigit = true)
    (hys : ∀ c ∈ ys, c.isDigit = true) (hlength : xs.length = ys.length) :
    xs < ys ↔ Nat.ofDigitChars 10 xs 0 < Nat.ofDigitChars 10 ys 0 := by
  induction xs generalizing ys with
  | nil =>
    rw [List.length_nil] at hlength
    rw [List.length_eq_zero_iff.mp hlength.symm]
    exact iff_of_false (List.lt_irrefl _) (Nat.lt_irrefl _)
  | cons x xs ih =>
    cases ys with
    | nil => cases hlength
    | cons y ys =>
      have hrest : xs.length = ys.length := Nat.succ.inj hlength
      have hxs' : ∀ c ∈ xs, c.isDigit = true := fun c hc => hxs c (List.mem_cons_of_mem x hc)
      have hys' : ∀ c ∈ ys, c.isDigit = true := fun c hc => hys c (List.mem_cons_of_mem y hc)
      have hx := ofDigitChars_lt hxs'
      have hy := ofDigitChars_lt hys'
      rw [hrest] at hx
      rw [List.cons_lt_cons_iff, ih hxs' hys' hrest, ofDigitChars_first, ofDigitChars_first, hrest]
      have hcode : x < y ↔ x.toNat < y.toNat := Char.lt_def
      have hxlow : '0'.toNat ≤ x.toNat := (Char.isDigit_iff_toNat.mp (hxs x List.mem_cons_self)).1
      have hylow : '0'.toNat ≤ y.toNat := (Char.isDigit_iff_toNat.mp (hys y List.mem_cons_self)).1
      rw [hcode, ← Char.toNat_inj]
      generalize Nat.ofDigitChars 10 xs 0 = a, Nat.ofDigitChars 10 ys 0 = b, 10 ^ ys.length = w at *
      -- The first digits decide unless they are equal, as what follows is less than their unit.
      rcases Nat.lt_trichotomy x.toNat y.toNat with hlt | heq | hgt
      · have hunit : w * (x.toNat - '0'.toNat) + w ≤ w * (y.toNat - '0'.toNat) := by
          rw [← Nat.mul_succ]
          exact Nat.mul_le_mul_left w (by omega)
        exact iff_of_true (.inl hlt) (by omega)
      · rw [heq]
        omega
      · have hunit : w * (y.toNat - '0'.toNat) + w ≤ w * (x.toNat - '0'.toNat) := by
          rw [← Nat.mul_succ]
          exact Nat.mul_le_mul_left w (by omega)
        exact iff_of_false (by omega) (by omega)

theorem Shows.lt_iff {m : Nat} (hs : Shows s width n) (ht : Shows t width m) : s < t ↔ n < m := by
  rw [String.lt_iff_toList_lt,
    lt_iff_ofDigitChars_lt hs.digits ht.digits (hs.length.trans ht.length.symm), hs.number,
    ht.number]

end

end SerialNumbers.Text
