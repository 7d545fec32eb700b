/-
  SerialNumbers.Proofs.Number.Numeral

  How decimal numbers are written.  A numeral is a sign, digits with a point
  among them, and an exponent.  A text may write the digits in any script and
  the exponent in either case, with underscores anywhere and blanks around it
  (`Numeral.WrittenAs`), and denotes the number that its numeral stands for, if
  the digits stand at places that a decimal has (`Denotes`).  The reader sees a
  numeral in the texts that write it (`Numeral.asciiForm?_eq_some_iff`).
-/
import SerialNumbers.Proofs.Number.Decimal
import SerialNumbers.Proofs.Text.Numeral
import SerialNumbers.Proofs.Text.Order

namespace SerialNumbers.Number

open Text

/-! ## Numerals -/

/-- Decimal digits of ASCII. -/
structure Digits where
  chars : List Char
  areDigits : ∀ c ∈ chars, c.isDigit = true

namespace Digits

/-- The whole number that the digits show. -/
def value (ds : Digits) : ℕ :=
  Nat.ofDigitChars 10 ds.chars 0

/-- No digits, which show zero. -/
def empty : Digits := ⟨[], List.forall_mem_nil _⟩

end Digits

inductive Sign where
  | plus
  | minus
deriving DecidableEq

namespace Sign

/-- A sign may be left out. -/
def text : Option Sign → List Char
  | none => []
  | some plus => ['+']
  | some minus => ['-']

def isMinus (sign : Option Sign) : Bool :=
  sign == some minus

end Sign

/-- An exponent: digits, with or without a sign. -/
structure Power where
  sign : Option Sign
  digits : Digits
  written : digits.chars ≠ []

/-- A decimal number as it is written. -/
structure Numeral where
  sign : Option Sign
  whole : Digits
  /-- The digits behind the point, where there is a point. -/
  fraction : Option Digits
  power : Option Power
  /-- There is a digit on one side of the point at least. -/
  written : whole.chars ++ (fraction.getD .empty).chars ≠ []

namespace Power

def value (p : Power) : ℤ :=
  if Sign.isMinus p.sign then -p.digits.value else p.digits.value

def text : Option Power → List Char
  | none => []
  | some p => 'e' :: (Sign.text p.sign ++ p.digits.chars)

end Power

namespace Numeral

variable {n : Numeral}

/-- The digits behind the point. -/
def places (n : Numeral) : Digits :=
  n.fraction.getD .empty

/-- The exponent, zero if none is written. -/
def exponent (n : Numeral) : ℤ :=
  n.power.elim 0 Power.value

/-- The number that the numeral stands for, without its sign. -/
def size (n : Numeral) : ℚ :=
  (n.whole.value + n.places.value / 10 ^ n.places.chars.length) * 10 ^ n.exponent

/-- The number that the numeral stands for. -/
def value (n : Numeral) : ℚ :=
  if Sign.isMinus n.sign then -n.size else n.size

/-- The place of the last digit, counted from the point. -/
def lastPlace (n : Numeral) : ℤ :=
  n.exponent - n.places.chars.length

/-- The places of the digits are among those that a decimal has. -/
structure Fits (n : Numeral) : Prop where
  last : Decimal.minExponent ≤ n.lastPlace
  first : n.value ≠ 0 → |n.value| < 10 ^ (Decimal.maxExponent + 1)
  zero : n.value = 0 → n.lastPlace ≤ Decimal.maxExponent

/-! ## Spellings -/

def fractionText : Option Digits → List Char
  | none => []
  | some ds => '.' :: ds.chars

/-- What follows the sign, in characters of ASCII. -/
def unsigned (n : Numeral) : List Char :=
  n.whole.chars ++ (fractionText n.fraction ++ Power.text n.power)

/-- The numeral in characters of ASCII. -/
def text (n : Numeral) : List Char :=
  Sign.text n.sign ++ n.unsigned

/-- A character may stand for itself, for the same letter in small, and for a digit if it is the
    same digit of another script. -/
def spells (c plain : Char) : Bool :=
  c == plain || plain == 'e' && c == 'E' ||
    plain.isDigit && digitValue? c == some (plain.toNat - '0'.toNat)

/-- The text writes the numeral, with blanks around it and underscores anywhere in it. -/
def WrittenAs (n : Numeral) (s : String) : Prop :=
  List.Forall₂ (spells · ·) ((trim s.toList).filter (· != '_')) n.text

end Numeral

/-- The text writes a decimal number that stands for this number. -/
def Denotes (s : String) (q : ℚ) : Prop :=
  ∃ n : Numeral, n.WrittenAs s ∧ n.Fits ∧ n.value = q

/-! ## The decimal of a numeral -/

namespace Numeral

variable {n : Numeral}

/-- The numeral as coefficient and exponent. -/
def scaled (n : Numeral) : Scaled where
  negative := Sign.isMinus n.sign
  coefficient := Nat.ofDigitChars 10 (n.whole.chars ++ n.places.chars) 0
  exponent := n.lastPlace

theorem magnitude_scaled (n : Numeral) : n.scaled.magnitude = n.size := by
  have hten : (10 : ℚ) ≠ 0 := by norm_num
  have hdigits : n.scaled.coefficient =
      10 ^ n.places.chars.length * n.whole.value + n.places.value := by
    simp only [scaled, Nat.ofDigitChars_append, Digits.value]
    rw [Nat.ofDigitChars_eq_ofDigitChars_zero]
  have hmagnitude : n.scaled.magnitude = n.scaled.coefficient * 10 ^ n.lastPlace := rfl
  rw [hmagnitude, hdigits, size, lastPlace, zpow_sub₀ hten, zpow_natCast]
  push_cast
  field_simp

theorem value_scaled (n : Numeral) : n.scaled.value = n.value := by
  rw [Scaled.value, magnitude_scaled]
  rfl

/-- A decimal is within the bounds where the digits of its numeral fit. -/
theorem inRange_scaled : Decimal.inRange n.scaled = true ↔ n.Fits := by
  have hzero : n.scaled.coefficient = 0 ↔ n.value = 0 := by
    rw [← Scaled.magnitude_eq_zero, ← Scaled.abs_value, abs_eq_zero, value_scaled]
  have hsize : |n.value| = n.scaled.magnitude := by
    rw [← value_scaled, Scaled.abs_value]
  simp only [Decimal.inRange, Bool.and_eq_true, decide_eq_true_eq, beq_iff_eq]
  constructor
  · rintro ⟨hlast, hfirst⟩
    refine ⟨hlast, fun hne => ?_, fun heq => ?_⟩
    · rw [if_neg (mt hzero.mp hne)] at hfirst
      rw [hsize]
      exact (Scaled.adjusted_le_iff (mt hzero.mp hne)).mp hfirst
    · rwa [if_pos (hzero.mpr heq)] at hfirst
  · rintro ⟨hlast, hfirst, hplace⟩
    refine ⟨hlast, ?_⟩
    split
    · rename_i heq
      exact hplace (hzero.mp heq)
    · rename_i hne
      rw [Scaled.adjusted_le_iff hne, ← hsize]
      exact hfirst (mt hzero.mpr hne)

end Numeral

/-! ## Characters -/

/-- The characters of numerals. -/
def plainChars : List Char :=
  ['+', '-', '.', 'e', '0', '1', '2', '3', '4', '5', '6', '7', '8', '9']

/-- How the reader takes a character. -/
def plainChar? (c : Char) : Option Char :=
  if c.toNat < 0x80 then some c.toLower
  else (digitValue? c).map fun d => Char.ofNat (0x30 + d)

theorem digitValue?_lt {c : Char} {d : ℕ} (h : digitValue? c = some d) : d < 10 := by
  obtain ⟨start, hstart, rfl⟩ := Option.map_eq_some_iff.mp h
  have hrange := List.find?_some hstart
  simp only [Bool.and_eq_true, decide_eq_true_eq] at hrange
  omega

theorem isDigit_mem_plainChars {c : Char} (h : c.isDigit = true) : c ∈ plainChars := by
  obtain ⟨hlow, hhigh⟩ := Char.isDigit_iff_toNat.mp h
  have hall : ∀ d < 10, Char.ofNat (0x30 + d) ∈ plainChars := by decide
  have hcode : c.toNat = 0x30 + (c.toNat - 0x30) := (Nat.add_sub_of_le hlow).symm
  rw [← Char.ofNat_toNat c, hcode]
  exact hall _ (Nat.lt_succ_of_le (Nat.sub_le_sub_right hhigh 0x30))

/-- The reader takes a character for what it stands for. -/
theorem plainChar?_eq_some_iff {c plain : Char} (h : plain ∈ plainChars) :
    plainChar? c = some plain ↔ Numeral.spells c plain = true := by
  rcases Nat.lt_or_ge c.toNat 0x80 with hascii | hbeyond
  · -- The characters of ASCII are gone through one by one.
    have hall := forall_ascii (p := fun c => plainChars.all fun plain =>
      (plainChar? c == some plain) == Numeral.spells c plain) (by decide +kernel) hascii
    have hplain := List.all_eq_true.mp hall plain h
    rw [beq_iff_eq] at hplain
    rw [← hplain, beq_iff_eq]
  · have hlow : (('E' :: plainChars).all fun a => a.toNat.blt 0x80) = true := by decide
    have hself (a : Char) (ha : a ∈ 'E' :: plainChars) : (c == a) = false := by
      rw [beq_eq_false_iff_ne]
      rintro rfl
      have hascii := Nat.blt_eq.mp (List.all_eq_true.mp hlow c ha)
      omega
    simp only [plainChar?, Nat.not_lt.mpr hbeyond, if_false, Numeral.spells,
      hself plain (List.mem_cons_of_mem _ h), hself 'E' List.mem_cons_self, Bool.and_false,
      Bool.false_or]
    cases hdigit : digitValue? c with
    | none => simp
    | some d =>
      have hall : ((List.range 10).all fun d => plainChars.all fun plain =>
          (Char.ofNat (0x30 + d) == plain) ==
            (plain.isDigit && some d == some (plain.toNat - '0'.toNat))) = true := by
        decide +kernel
      have hcode := List.all_eq_true.mp hall d (List.mem_range.mpr (digitValue?_lt hdigit))
      have hplain := List.all_eq_true.mp hcode plain h
      rw [beq_iff_eq] at hplain
      rw [← hplain, Option.map_some, Option.some.injEq, beq_iff_eq]

theorem mapM_eq_some_iff {α β : Type} {f : α → Option β} {xs : List α} {ys : List β} :
    xs.mapM f = some ys ↔ List.Forall₂ (fun x y => f x = some y) xs ys := by
  induction xs generalizing ys with
  | nil => cases ys <;> simp
  | cons x xs ih =>
    cases ys with
    | nil => simp [List.mapM_cons, Option.bind_eq_some_iff]
    | cons y ys => simp [List.mapM_cons, Option.bind_eq_some_iff, ih]

/-! ## Reading numerals -/

namespace Numeral

variable {n : Numeral}

theorem mem_plainChars_text {c : Char} (h : c ∈ n.text) : c ∈ plainChars := by
  have hsign (sign : Option Sign) (hc : c ∈ Sign.text sign) : c ∈ plainChars := by
    rcases sign with _ | _ | _ <;> simp [Sign.text] at hc <;> simp [hc, plainChars]
  have hdigits (ds : Digits) (hc : c ∈ ds.chars) : c ∈ plainChars :=
    isDigit_mem_plainChars (ds.areDigits c hc)
  simp only [text, unsigned, List.mem_append] at h
  rcases h with h | h | h | h
  · exact hsign _ h
  · exact hdigits _ h
  · cases hfraction : n.fraction with
    | none => simp [fractionText, hfraction] at h
    | some ds =>
      rw [hfraction, fractionText, List.mem_cons] at h
      rcases h with rfl | h
      · decide
      · exact hdigits ds h
  · cases hpower : n.power with
    | none => simp [Power.text, hpower] at h
    | some p =>
      rw [hpower, Power.text, List.mem_cons, List.mem_append] at h
      rcases h with rfl | h | h
      · decide
      · exact hsign _ h
      · exact hdigits _ h

/-- A text writes a numeral just when the reader sees the numeral in it. -/
theorem asciiForm?_eq_some_iff {s : String} :
    Decimal.asciiForm? s.toList = some n.text ↔ n.WrittenAs s := by
  have hform : Decimal.asciiForm? s.toList =
      ((trim s.toList).filter (· != '_')).mapM plainChar? := rfl
  rw [hform, mapM_eq_some_iff, WrittenAs]
  -- Text and numeral are gone through side by side.
  have hplain : ∀ c ∈ n.text, c ∈ plainChars := fun c => mem_plainChars_text
  generalize (trim s.toList).filter (· != '_') = cs, n.text = plain at hplain
  induction plain generalizing cs with
  | nil => simp
  | cons a plain ih =>
    obtain ⟨ha, hrest⟩ := List.forall_mem_cons.mp hplain
    cases cs with
    | nil => simp
    | cons c cs =>
      rw [List.forall₂_cons, List.forall₂_cons]
      exact and_congr (plainChar?_eq_some_iff ha) (ih cs hrest)

end Numeral

end SerialNumbers.Number
