/-
  SerialNumbers.Proofs.Number.Reading

  The reader of decimals against the numerals.  Sign, exponent and digits of a
  numeral are read as what they stand for, and whatever the reader makes a
  number of is a numeral.  So a text is read just when it writes a numeral
  whose digits fit (`Decimal.readFinite?_eq_some_iff`), as the number that it
  denotes (`denotes_iff`), and it denotes one number at most (`Denotes.unique`).
-/
import SerialNumbers.Proofs.Number.Numeral

namespace SerialNumbers.Number

open Text

/-! ## Digits -/

section

variable {cs : List Char}

theorem wholeNumber?_of_digits (hne : cs ≠ []) (h : ∀ c ∈ cs, c.isDigit = true) :
    Decimal.wholeNumber? cs = some (Nat.ofDigitChars 10 cs 0) := by
  simp [Decimal.wholeNumber?, hne, digitsValue?_of_digits h]

/-- What is read as a whole number is a run of digits. -/
theorem exists_digits (hlow : ∀ c ∈ cs, c.toNat < 0x80) {k : ℕ}
    (h : Decimal.wholeNumber? cs = some k) :
    ∃ ds : Digits, ds.chars = cs ∧ ds.chars ≠ [] ∧ ds.value = k := by
  have hne : cs ≠ [] := by
    rintro rfl
    cases h
  have hdigits : ∀ c ∈ cs, c.isDigit = true := by
    intro c hc
    apply isDigit_of_isDecimalDigit (hlow c hc)
    by_contra hplain
    have hnone := digitsValue?_eq_none.mpr ⟨c, hc, Bool.not_eq_true _ ▸ hplain⟩
    simp [Decimal.wholeNumber?, hnone] at h
  rw [wholeNumber?_of_digits hne hdigits] at h
  exact ⟨⟨cs, hdigits⟩, rfl, hne, Option.some.inj h⟩

/-- Digits are taken up to the first character that is none. -/
theorem span_digits (ds : Digits) (h : ∀ c ∈ cs.head?, c.isDigit = false) :
    (ds.chars ++ cs).takeWhile Char.isDigit = ds.chars ∧
      (ds.chars ++ cs).dropWhile Char.isDigit = cs := by
  rw [List.takeWhile_append_of_pos ds.areDigits, List.dropWhile_append_of_pos ds.areDigits]
  cases cs with
  | nil => simp
  | cons c cs => simp [h c rfl]

end

/-! ## Signs and exponents -/

section

variable {cs : List Char}

/-- A sign is read off where none follows it. -/
theorem signed_text (sign : Option Sign) (h : ∀ c ∈ cs.head?, c ≠ '+' ∧ c ≠ '-') :
    Decimal.signed (Sign.text sign ++ cs) = (Sign.isMinus sign, cs) := by
  rcases sign with _ | _ | _
  · cases cs with
    | nil => rfl
    | cons c cs =>
      obtain ⟨hplus, hminus⟩ := h c rfl
      simp [Sign.text, Sign.isMinus, Decimal.signed, hplus, hminus]
  · rfl
  · rfl

theorem exists_sign (cs : List Char) :
    ∃ sign, Sign.text sign ++ (Decimal.signed cs).2 = cs ∧
      Sign.isMinus sign = (Decimal.signed cs).1 := by
  fun_cases Decimal.signed cs with
  | case1 rest => exact ⟨some .minus, rfl, rfl⟩
  | case2 rest => exact ⟨some .plus, rfl, rfl⟩
  | case3 => exact ⟨none, rfl, rfl⟩

theorem not_sign_of_digits (ds : Digits) : ∀ c ∈ ds.chars.head?, c ≠ '+' ∧ c ≠ '-' := by
  intro c hc
  have hdigit := ds.areDigits c (List.mem_of_mem_head? hc)
  constructor <;> rintro rfl <;> cases hdigit

theorem exponentPart?_text (p : Option Power) :
    Decimal.exponentPart? (Power.text p) = some (p.elim 0 Power.value) := by
  cases p with
  | none => rfl
  | some p =>
    have hsigned := signed_text p.sign (not_sign_of_digits p.digits)
    have hread := wholeNumber?_of_digits p.written p.digits.areDigits
    simp [Power.text, Decimal.exponentPart?, hsigned, hread, Power.value, Digits.value]

/-- What is read as an exponent is one. -/
theorem exists_power (hlow : ∀ c ∈ cs, c.toNat < 0x80) {e : ℤ}
    (h : Decimal.exponentPart? cs = some e) :
    ∃ p : Option Power, Power.text p = cs ∧ p.elim 0 Power.value = e := by
  unfold Decimal.exponentPart? at h
  split at h
  · exact ⟨none, rfl, Option.some.inj h⟩
  · rename_i rest
    obtain ⟨sign, hrest, hminus⟩ := exists_sign rest
    have hlow' : ∀ c ∈ (Decimal.signed rest).2, c.toNat < 0x80 := by
      intro c hc
      apply hlow
      rw [← hrest]
      simp [hc]
    cases hread : Decimal.wholeNumber? (Decimal.signed rest).2 with
    | none => simp [hread] at h
    | some k =>
      obtain ⟨ds, hchars, hne, rfl⟩ := exists_digits hlow' hread
      refine ⟨some ⟨sign, ds, hne⟩, ?_, ?_⟩
      · rw [Power.text, hchars, hrest]
      · simp [hread, ← hminus] at h
        simpa [Power.value] using h
  · cases h

end

/-! ## Numbers without a sign -/

namespace Numeral

variable {n : Numeral}

/-- A numeral starts with a digit or a point behind its sign. -/
theorem head_unsigned (n : Numeral) :
    ∃ c rest, n.unsigned = c :: rest ∧ (c.isDigit = true ∨ c = '.') := by
  cases hwhole : n.whole.chars with
  | cons c rest =>
    have hdigit : c.isDigit = true := n.whole.areDigits c (by simp [hwhole])
    exact ⟨c, _, by rw [unsigned, hwhole, List.cons_append], .inl hdigit⟩
  | nil =>
    cases hfraction : n.fraction with
    | none => exact absurd n.written (by simp [hwhole, hfraction, Digits.empty])
    | some ds => exact ⟨'.', _, by rw [unsigned, hwhole, hfraction]; rfl, .inr rfl⟩

/-- Every text has digits, or none, in front and behind a point if one follows. -/
theorem exists_parts (cs : List Char) : ∃ (whole : Digits) (fraction : Option Digits)
    (tail : List Char), whole.chars ++ (fractionText fraction ++ tail) = cs ∧
      (∀ c ∈ tail.head?, c.isDigit = false) ∧ (fraction = none → ∀ c ∈ tail.head?, c ≠ '.') := by
  have hrun (cs : List Char) : ∃ (ds : Digits) (tail : List Char), ds.chars ++ tail = cs ∧
      ∀ c ∈ tail.head?, c.isDigit = false := by
    refine ⟨⟨cs.takeWhile Char.isDigit, fun c hc => List.mem_takeWhile_imp hc⟩,
      cs.dropWhile Char.isDigit, List.takeWhile_append_dropWhile, fun c hc => ?_⟩
    have hstop := List.head?_dropWhile_not Char.isDigit cs
    rw [hc] at hstop
    simpa using hstop
  obtain ⟨whole, rest, rfl, hstop⟩ := hrun cs
  by_cases hpoint : rest.head? = some '.'
  · obtain ⟨behind, rfl⟩ : ∃ behind, rest = '.' :: behind := by
      cases rest with
      | nil => cases hpoint
      | cons c behind => exact ⟨behind, by rw [Option.some.inj hpoint]⟩
    obtain ⟨ds, tail, rfl, htail⟩ := hrun behind
    exact ⟨whole, some ds, tail, rfl, htail, nofun⟩
  · refine ⟨whole, none, rest, rfl, hstop, fun _ c hc => ?_⟩
    rintro rfl
    exact hpoint hc

/-- The number, if it is within the bounds. -/
def bounded? (x : Scaled) : Option Decimal :=
  if Decimal.inRange x then some (.finite x) else none

/-- The reader takes the parts of a number as they were put together. -/
theorem digitsPart?_parts (negative : Bool) (whole : Digits) (fraction : Option Digits)
    {tail : List Char} (hdigit : ∀ c ∈ tail.head?, c.isDigit = false)
    (hpoint : fraction = none → ∀ c ∈ tail.head?, c ≠ '.') :
    Decimal.digitsPart? negative (whole.chars ++ (fractionText fraction ++ tail)) =
      (Decimal.wholeNumber? (whole.chars ++ (fraction.getD .empty).chars)).bind fun coefficient =>
        (Decimal.exponentPart? tail).bind fun exponent =>
          bounded? ⟨negative, coefficient, exponent - (fraction.getD .empty).chars.length⟩ := by
  cases fraction with
  | none =>
    -- Without a point the digits end where the exponent starts, or the text.
    obtain ⟨htake, hdrop⟩ := span_digits whole hdigit
    cases tail with
    | nil =>
      rw [List.append_nil] at htake hdrop
      simp [Decimal.digitsPart?, fractionText, Digits.empty, bounded?, htake, hdrop]
    | cons c tail =>
      have hc : c ≠ '.' := hpoint rfl c rfl
      simp [Decimal.digitsPart?, fractionText, Digits.empty, bounded?, htake, hdrop, hc]
  | some ds =>
    obtain ⟨htake, hdrop⟩ := span_digits ds hdigit
    have hstop : ∀ c ∈ ('.' :: (ds.chars ++ tail)).head?, c.isDigit = false := by simp
    obtain ⟨hfirst, hrest⟩ := span_digits whole hstop
    simp [Decimal.digitsPart?, fractionText, bounded?, htake, hdrop, hfirst, hrest]

/-- A numeral without its sign is read as its decimal, if this is within the bounds. -/
theorem digitsPart?_unsigned (n : Numeral) :
    Decimal.digitsPart? (Sign.isMinus n.sign) n.unsigned = bounded? n.scaled := by
  have hpower : ∀ c ∈ (Power.text n.power).head?, c = 'e' := by
    cases n.power <;> simp [Power.text]
  have hcoefficient : Decimal.wholeNumber? (n.whole.chars ++ n.places.chars) =
      some n.scaled.coefficient := by
    apply wholeNumber?_of_digits n.written
    exact List.forall_mem_append.mpr ⟨n.whole.areDigits, n.places.areDigits⟩
  rw [unsigned, digitsPart?_parts]
  · have hplaces : n.fraction.getD .empty = n.places := rfl
    simp only [hplaces, hcoefficient, exponentPart?_text]
    rfl
  · intro c hc
    rw [hpower c hc]
    rfl
  · intro _ c hc
    rw [hpower c hc]
    decide

/-- What is read as a number without a sign is a numeral without its sign. -/
theorem exists_numeral {cs : List Char} (hlow : ∀ c ∈ cs, c.toNat < 0x80) (sign : Option Sign)
    {d : Decimal} (h : Decimal.digitsPart? (Sign.isMinus sign) cs = some d) :
    ∃ n : Numeral, n.sign = sign ∧ n.unsigned = cs := by
  obtain ⟨whole, fraction, tail, rfl, hdigit, hpoint⟩ := exists_parts cs
  rw [digitsPart?_parts _ _ _ hdigit hpoint] at h
  obtain ⟨coefficient, hcoefficient, h⟩ := Option.bind_eq_some_iff.mp h
  obtain ⟨exponent, hexponent, -⟩ := Option.bind_eq_some_iff.mp h
  have htail : ∀ c ∈ tail, c.toNat < 0x80 := fun c hc => hlow c (by simp [hc])
  obtain ⟨power, rfl, -⟩ := exists_power htail hexponent
  have hwritten : whole.chars ++ (fraction.getD .empty).chars ≠ [] := by
    intro hempty
    rw [hempty] at hcoefficient
    cases hcoefficient
  exact ⟨⟨sign, whole, fraction, power, hwritten⟩, rfl, rfl⟩

end Numeral

/-! ## Texts -/

/-- The signs, words and letters that a text may begin with are told from its first character, so
    what begins with another one is read as digits. -/
theorem Decimal.read?_of_head {s : String} {cs rest : List Char} {c : Char}
    (hform : asciiForm? s.toList = some cs) (hbody : (signed cs).2 = c :: rest)
    (hc : c ≠ 'i' ∧ c ≠ 'n' ∧ c ≠ 's') :
    read? s = digitsPart? (signed cs).1 (signed cs).2 := by
  obtain ⟨hi, hn, hs⟩ := hc
  have hinf : ((signed cs).2 == "inf".toList) = false := by
    rw [hbody, beq_eq_false_iff_ne]
    exact fun h => hi (List.cons.inj h).1
  have hinfinity : ((signed cs).2 == "infinity".toList) = false := by
    rw [hbody, beq_eq_false_iff_ne]
    exact fun h => hi (List.cons.inj h).1
  have hnan : "nan".toList.isPrefixOf (signed cs).2 = false := by
    rw [hbody]
    simpa [List.isPrefixOf] using fun h : 'n' = c => absurd h.symm hn
  have hsnan : "snan".toList.isPrefixOf (signed cs).2 = false := by
    rw [hbody]
    simpa [List.isPrefixOf] using fun h : 's' = c => absurd h.symm hs
  rw [read?, hform, Option.bind_eq_bind, Option.bind_some]
  dsimp only
  rw [hinf, hinfinity, hnan, hsnan]
  rfl

/-- A text that writes a numeral is read as its decimal, if this is within the bounds. -/
theorem Numeral.WrittenAs.read? {n : Numeral} {s : String} (h : n.WrittenAs s) :
    Decimal.read? s = bounded? n.scaled := by
  obtain ⟨c, rest, hunsigned, hc⟩ := n.head_unsigned
  have hletter : c ≠ 'i' ∧ c ≠ 'n' ∧ c ≠ 's' ∧ c ≠ '+' ∧ c ≠ '-' := by
    refine ⟨?_, ?_, ?_, ?_, ?_⟩ <;> rintro rfl <;> revert hc <;> decide
  have hsigned : Decimal.signed n.text = (Sign.isMinus n.sign, n.unsigned) := by
    apply signed_text
    simp [hunsigned, hletter]
  have hread := Decimal.read?_of_head (Numeral.asciiForm?_eq_some_iff.mpr h)
    (by rw [hsigned, hunsigned]) ⟨hletter.1, hletter.2.1, hletter.2.2.1⟩
  rw [hread, hsigned, digitsPart?_unsigned]

/-- The reader takes no character for one beyond ASCII. -/
theorem plainChar?_lt {c plain : Char} (h : plainChar? c = some plain) : plain.toNat < 0x80 := by
  unfold plainChar? at h
  split at h
  · rename_i hlow
    obtain rfl := Option.some.inj h
    exact Nat.blt_eq.mp
      (forall_ascii (p := fun c => c.toLower.toNat.blt 0x80) (by decide +kernel) hlow)
  · obtain ⟨d, hd, rfl⟩ := Option.map_eq_some_iff.mp h
    have hall : ∀ d < 10, (Char.ofNat (0x30 + d)).toNat < 0x80 := by decide
    exact hall d (digitValue?_lt hd)

namespace Decimal

variable {s : String} {cs : List Char}

theorem asciiForm?_lt (h : asciiForm? s.toList = some cs) : ∀ c ∈ cs, c.toNat < 0x80 := by
  have hform : List.Forall₂ (fun c plain => plainChar? c = some plain)
      ((trim s.toList).filter (· != '_')) cs := mapM_eq_some_iff.mp h
  intro c hc
  obtain ⟨i, hi, rfl⟩ := List.getElem_of_mem hc
  have hlength := hform.length_eq
  exact plainChar?_lt (hform.get (by omega) hi)

/-- A finite number is read as digits. -/
theorem exists_digitsPart? {x : Scaled} (h : read? s = some (.finite x)) :
    ∃ cs, asciiForm? s.toList = some cs ∧
      digitsPart? (signed cs).1 (signed cs).2 = some (.finite x) := by
  rw [read?, Option.bind_eq_bind] at h
  obtain ⟨cs, hform, h⟩ := Option.bind_eq_some_iff.mp h
  refine ⟨cs, hform, ?_⟩
  dsimp only at h
  -- An infinity or an undefined number is another decimal than a finite one.
  split at h
  · cases h
  · split at h
    · cases hpayload : payload? ((signed cs).2.drop 3) <;> simp [hpayload] at h
    · split at h
      · cases hpayload : payload? ((signed cs).2.drop 4) <;> simp [hpayload] at h
      · exact h

/-- The texts that are read are those of numerals whose digits fit. -/
theorem readFinite?_eq_some_iff {x : Scaled} :
    readFinite? s = some x ↔ ∃ n : Numeral, n.WrittenAs s ∧ n.Fits ∧ n.scaled = x := by
  have hfinite : readFinite? s = some x ↔ read? s = some (.finite x) := by
    unfold readFinite?
    split <;> simp_all
  rw [hfinite]
  constructor
  · intro h
    obtain ⟨cs, hform, hdigits⟩ := exists_digitsPart? h
    -- The numeral gets the sign that the reader split off, and is found in what is left.
    obtain ⟨sign, htext, hminus⟩ := exists_sign cs
    have hlow : ∀ c ∈ (signed cs).2, c.toNat < 0x80 := by
      intro c hc
      apply asciiForm?_lt hform
      rw [← htext]
      simp [hc]
    rw [← hminus] at hdigits
    obtain ⟨n, rfl, hunsigned⟩ := Numeral.exists_numeral hlow sign hdigits
    have hwritten : n.WrittenAs s := by
      rw [← Numeral.asciiForm?_eq_some_iff, hform, Numeral.text, hunsigned, htext]
    rw [hwritten.read?] at h
    obtain ⟨hrange, hx⟩ := Option.ite_none_right_eq_some.mp h
    exact ⟨n, hwritten, Numeral.inRange_scaled.mp hrange, Decimal.finite.inj (Option.some.inj hx)⟩
  · rintro ⟨n, hwritten, hfits, rfl⟩
    rw [hwritten.read?, Numeral.bounded?, if_pos (Numeral.inRange_scaled.mpr hfits)]

end Decimal

/-! ## The number of a text -/

/-- A text denotes the number that the reader makes of it. -/
theorem denotes_iff {s : String} {q : ℚ} :
    Denotes s q ↔ ∃ x, Decimal.readFinite? s = some x ∧ x.value = q := by
  constructor
  · rintro ⟨n, hwritten, hfits, rfl⟩
    exact ⟨n.scaled, Decimal.readFinite?_eq_some_iff.mpr ⟨n, hwritten, hfits, rfl⟩, n.value_scaled⟩
  · rintro ⟨x, hread, rfl⟩
    obtain ⟨n, hwritten, hfits, rfl⟩ := Decimal.readFinite?_eq_some_iff.mp hread
    exact ⟨n, hwritten, hfits, n.value_scaled.symm⟩

/-- However often a text may be seen as a numeral, the number is the same. -/
theorem Denotes.unique {s : String} {p q : ℚ} (hp : Denotes s p) (hq : Denotes s q) : p = q := by
  obtain ⟨x, hx, rfl⟩ := denotes_iff.mp hp
  obtain ⟨y, hy, rfl⟩ := denotes_iff.mp hq
  rw [Option.some.inj (hx.symm.trans hy)]

example : Denotes " +1_5٠e-2\n" (3 / 2) := by
  have hread : Decimal.readFinite? " +1_5٠e-2\n" = some ⟨false, 150, -2⟩ := by decide +kernel
  exact denotes_iff.mpr ⟨_, hread, by norm_num [Scaled.value, Scaled.magnitude]⟩

end SerialNumbers.Number
