/-
  SerialNumbers.Number.Whole

  Whole numbers as texts, and the room for a text.  A number of too many digits
  is not written, and a text is not padded to a width for which there can be no
  room.
-/
import SerialNumbers.Failure
import SerialNumbers.Text.Digit

namespace SerialNumbers

open Text

/-! ## Numerals -/

/-- The most digits of a number that is read or written.  It is kept folded, as its powers are
    too large to be worked out on the way. -/
@[irreducible]
def maxDigits : Nat := 4300

/-- From here on a number has too many digits. -/
def digitBound : Nat :=
  Nat.pow 10 maxDigits

namespace Number

/-- The number has no more digits than are written. -/
def Writable (n : Int) : Prop :=
  n.natAbs < digitBound

instance (n : Int) : Decidable (Writable n) :=
  inferInstanceAs (Decidable (_ < _))

/-- A number that is written, unless it has too many digits. -/
def written (n : Int) : Except Failure {n : Int // Writable n} :=
  if h : Writable n then .ok ⟨n, h⟩ else .error (.value (.longWhole maxDigits))

/-- The decimal text of a whole number. -/
def numeral (n : Int) : Except Failure String :=
  (fun n => toString n.val) <$> written n

theorem written_of_writable {n : Int} (h : Writable n) : written n = .ok ⟨n, h⟩ :=
  dif_pos h

theorem written_of_not_writable {n : Int} (h : ¬Writable n) :
    written n = .error (.value (.longWhole maxDigits)) :=
  dif_neg h

theorem val_of_written {n : Int} {m : {n : Int // Writable n}} (h : written n = .ok m) :
    m.val = n := by
  unfold written at h
  split at h
  · cases h
    rfl
  · cases h

theorem numeral_of_writable {n : Int} (h : Writable n) : numeral n = .ok (toString n) := by
  rw [numeral, written_of_writable h]
  rfl

theorem numeral_of_not_writable {n : Int} (h : ¬Writable n) :
    numeral n = .error (.value (.longWhole maxDigits)) := by
  rw [numeral, written_of_not_writable h]
  rfl

theorem numeral_eq_ok {n : Int} {s : String} :
    numeral n = .ok s ↔ Writable n ∧ s = toString n := by
  by_cases h : Writable n
  · simp [numeral_of_writable h, h, eq_comm]
  · simp [numeral_of_not_writable h, h]

theorem writable_of_digit {n : Int} (h : n.natAbs < 10) : Writable n :=
  Nat.lt_of_lt_of_le h (Nat.le_pow (by decide +kernel))

theorem writable_zero : Writable 0 :=
  writable_of_digit (by decide)

theorem writable_one : Writable 1 :=
  writable_of_digit (by decide)

theorem writable_five : Writable 5 :=
  writable_of_digit (by decide)

end Number

/-! ## Room -/

/-- From here on a width is beyond all that can be asked for, as it needs more than 63 bits. -/
def widthBound : Int := 9223372036854775808

/-- No text has more characters than this, as there are no addresses of more than 47 bits. -/
def textRoom : Nat := 140737488355328

/-- Pads with zeros to a width, as far as there can be a text of this width. -/
def zeroPadded (width : Int) (s : String) : Except Failure String :=
  if width < -widthBound || widthBound ≤ width then .error .widthOverflow
  else if textRoom < width then .error .outOfMemory
  else .ok (zeroFill width.toNat s)

/-- A width for which there is room. -/
def Roomy (width : Int) : Prop :=
  -widthBound ≤ width ∧ width ≤ textRoom

instance (width : Int) : Decidable (Roomy width) :=
  inferInstanceAs (Decidable (_ ∧ _))

theorem zeroPadded_of_roomy {width : Int} (h : Roomy width) (s : String) :
    zeroPadded width s = .ok (zeroFill width.toNat s) := by
  obtain ⟨hlow, hhigh⟩ := h
  have hbound : (textRoom : Int) < widthBound := by decide
  unfold zeroPadded
  rw [if_neg (by simp; omega), if_neg (by omega)]

theorem zeroPadded_eq_ok {width : Int} {s t : String} :
    zeroPadded width s = .ok t ↔ Roomy width ∧ t = zeroFill width.toNat s := by
  constructor
  · intro h
    unfold zeroPadded at h
    split at h
    · cases h
    · rename_i hwidth
      split at h
      · cases h
      · simp only [Bool.or_eq_true, decide_eq_true_eq, not_or, Int.not_lt, Int.not_le] at hwidth
        exact ⟨⟨hwidth.1, by omega⟩, (Except.ok.inj h).symm⟩
  · rintro ⟨h, rfl⟩
    exact zeroPadded_of_roomy h s

end SerialNumbers
