/-
  SerialNumbers.Proofs.Number.Decimal

  Decimals as rational numbers.  A decimal stands for its coefficient times its
  power of ten (`Scaled.value`).  The comparison looks at the signs and at the
  places of the leading digits before it brings two numbers to one exponent, and
  is still that of the numbers themselves, however far apart their exponents are
  (`Scaled.order_eq`).
-/
import Mathlib
import SerialNumbers.Number.Decimal

namespace SerialNumbers.Number.Scaled

variable {x y : Scaled}

/-! ## What a decimal stands for -/

/-- The number without its sign. -/
def magnitude (x : Scaled) : ℚ :=
  x.coefficient * 10 ^ x.exponent

/-- The number. -/
def value (x : Scaled) : ℚ :=
  if x.negative then -x.magnitude else x.magnitude

theorem ten_zpow_pos (e : ℤ) : (0 : ℚ) < 10 ^ e := zpow_pos (by norm_num) e

theorem magnitude_eq_zero : x.magnitude = 0 ↔ x.coefficient = 0 := by
  simp [magnitude, (ten_zpow_pos x.exponent).ne']

theorem magnitude_nonneg (x : Scaled) : 0 ≤ x.magnitude :=
  mul_nonneg (Nat.cast_nonneg _) (ten_zpow_pos _).le

theorem abs_value (x : Scaled) : |x.value| = x.magnitude := by
  by_cases h : x.negative <;> simp [value, h, abs_of_nonneg x.magnitude_nonneg]

/-- Zero has no sign, and another number has the sign that is written. -/
theorem sign_cases (x : Scaled) :
    (x.sign = 0 ∧ x.value = 0) ∨
      (x.coefficient ≠ 0 ∧ x.negative = true ∧ x.sign = -1 ∧ x.value < 0) ∨
      (x.coefficient ≠ 0 ∧ x.negative = false ∧ x.sign = 1 ∧ 0 < x.value) := by
  by_cases hzero : x.coefficient = 0
  · left
    simp [sign, value, magnitude, hzero]
  · right
    have hpos : 0 < x.magnitude := x.magnitude_nonneg.lt_of_ne' (mt magnitude_eq_zero.mp hzero)
    cases hsign : x.negative with
    | true => left; simp [sign, value, hzero, hsign, hpos]
    | false => right; simp [sign, value, hzero, hsign, hpos]

/-! ## The leading digit -/

/-- A number is less than one with its leading digit a place further up. -/
theorem magnitude_lt (x : Scaled) : x.magnitude < 10 ^ (x.adjusted + 1) := by
  have hdigits : 0 < x.digitCount := Nat.length_toDigits_pos
  have hlt : x.coefficient < 10 ^ x.digitCount :=
    (Nat.length_toDigits_le_iff (by decide) hdigits).mp le_rfl
  have hplace : x.adjusted + 1 = x.digitCount + x.exponent := by
    simp only [adjusted]
    omega
  rw [hplace, zpow_add₀ (by norm_num), zpow_natCast]
  apply mul_lt_mul_of_pos_right _ (ten_zpow_pos _)
  exact_mod_cast hlt

/-- A number that is not zero has a digit at the place of its leading digit. -/
theorem le_magnitude (h : x.coefficient ≠ 0) : 10 ^ x.adjusted ≤ x.magnitude := by
  have hdigits : 0 < x.digitCount := Nat.length_toDigits_pos
  have hle : 10 ^ (x.digitCount - 1) ≤ x.coefficient := by
    by_contra! hlt
    -- Otherwise one digit less would do, and a number has one digit at least.
    rcases Nat.eq_zero_or_pos (x.digitCount - 1) with hone | hmore
    · rw [hone] at hlt
      omega
    · have hfewer : x.digitCount ≤ x.digitCount - 1 :=
        (Nat.length_toDigits_le_iff (by decide) hmore).mpr hlt
      omega
  have hplace : x.adjusted = (x.digitCount - 1 : ℕ) + x.exponent := by
    simp only [adjusted]
    omega
  rw [hplace, zpow_add₀ (by norm_num), zpow_natCast]
  apply mul_le_mul_of_nonneg_right _ (ten_zpow_pos _).le
  exact_mod_cast hle

/-- The place of the leading digit bounds a number just when the power of ten above it does. -/
theorem adjusted_le_iff (h : x.coefficient ≠ 0) {place : ℤ} :
    x.adjusted ≤ place ↔ x.magnitude < 10 ^ (place + 1) := by
  constructor
  · intro hle
    exact x.magnitude_lt.trans_le (zpow_le_zpow_right₀ (by norm_num) (by omega))
  · intro hlt
    by_contra! hbeyond
    have hpower : (10 : ℚ) ^ (place + 1) ≤ 10 ^ x.adjusted :=
      zpow_le_zpow_right₀ (by norm_num) (by omega)
    linarith [le_magnitude h]

/-! ## Comparison -/

theorem magnitude_lt_of_adjusted (hy : y.coefficient ≠ 0) (h : x.adjusted < y.adjusted) :
    x.magnitude < y.magnitude := by
  have hpower : (10 : ℚ) ^ (x.adjusted + 1) ≤ 10 ^ y.adjusted :=
    zpow_le_zpow_right₀ (by norm_num) (by omega)
  linarith [x.magnitude_lt, le_magnitude hy]

/-- Zeros that bring a number to a lower exponent leave it what it is. -/
theorem magnitude_eq_shift {exponent : ℤ} (h : exponent ≤ x.exponent) :
    x.magnitude =
      (x.coefficient * Nat.pow 10 (x.exponent - exponent).toNat : ℕ) * 10 ^ exponent := by
  have hsplit : x.exponent = ((x.exponent - exponent).toNat : ℤ) + exponent := by omega
  rw [magnitude]
  conv_lhs => rw [hsplit, zpow_add₀ (by norm_num), zpow_natCast, ← mul_assoc]
  simp only [Nat.pow_eq, Nat.cast_mul, Nat.cast_pow, Nat.cast_ofNat]

theorem compareMagnitude_eq (hx : x.coefficient ≠ 0) (hy : y.coefficient ≠ 0) :
    x.compareMagnitude y = compare x.magnitude y.magnitude := by
  unfold compareMagnitude
  split
  · -- The two lead at one place, so that they are compared at the lower exponent.
    split
    · rename_i hle
      rw [magnitude_eq_shift hle, magnitude, ← cmp_eq_compare, ← cmp_eq_compare,
        cmp_mul_pos_right (ten_zpow_pos _), Nat.strictMono_cast.cmp_map_eq]
    · rename_i hlt
      have hle : x.exponent ≤ y.exponent := by omega
      rw [magnitude_eq_shift hle, magnitude, ← cmp_eq_compare, ← cmp_eq_compare,
        cmp_mul_pos_right (ten_zpow_pos _), Nat.strictMono_cast.cmp_map_eq]
  · cases hplace : compare x.adjusted y.adjusted with
    | lt =>
      have hlt := magnitude_lt_of_adjusted hy (compare_lt_iff_lt.mp hplace)
      exact (compare_lt_iff_lt.mpr hlt).symm
    | eq => contradiction
    | gt =>
      have hgt := magnitude_lt_of_adjusted hx (compare_gt_iff_gt.mp hplace)
      exact (compare_gt_iff_gt.mpr hgt).symm

/-- A lower sign is that of a lower number. -/
theorem value_lt_of_sign (h : x.sign < y.sign) : x.value < y.value := by
  rcases x.sign_cases with ⟨hx, hvx⟩ | ⟨-, -, hx, hvx⟩ | ⟨-, -, hx, hvx⟩ <;>
    rcases y.sign_cases with ⟨hy, hvy⟩ | ⟨-, -, hy, hvy⟩ | ⟨-, -, hy, hvy⟩ <;>
    first | omega | linarith

/-- Decimals are compared as the numbers that they stand for. -/
theorem order_eq (x y : Scaled) : x.order y = compare x.value y.value := by
  cases hsign : compare x.sign y.sign with
  | lt =>
    have hlt := value_lt_of_sign (compare_lt_iff_lt.mp hsign)
    simp only [order, hsign, compare_lt_iff_lt.mpr hlt]
  | gt =>
    have hgt := value_lt_of_sign (compare_gt_iff_gt.mp hsign)
    simp only [order, hsign, compare_gt_iff_gt.mpr hgt]
  | eq =>
    have hsame : x.sign = y.sign := compare_eq_iff_eq.mp hsign
    -- Of two numbers below zero the one that is smaller without its sign is the greater one.
    rcases x.sign_cases with ⟨hx, hvx⟩ | ⟨hcx, hnx, hx, -⟩ | ⟨hcx, hnx, hx, -⟩ <;>
      rcases y.sign_cases with ⟨hy, hvy⟩ | ⟨hcy, hny, hy, -⟩ | ⟨hcy, hny, hy, -⟩ <;>
      try omega
    · simp [order, hx, hy, hvx, hvy]
    · have hanti : StrictAnti fun q : ℚ => -q := fun _ _ => neg_lt_neg
      have hneg : compare (-x.magnitude) (-y.magnitude) = compare y.magnitude x.magnitude := by
        simpa only [cmp_eq_compare] using hanti.cmp_map_eq x.magnitude y.magnitude
      simp [order, hx, hy, hnx, hny, value, compareMagnitude_eq hcy hcx, hneg]
    · simp [order, hx, hy, hnx, hny, value, compareMagnitude_eq hcx hcy]

theorem lt_iff : x.lt y = true ↔ x.value < y.value := by
  rw [lt, order_eq, beq_iff_eq, compare_lt_iff_lt]

theorem le_iff : x.le y = true ↔ x.value ≤ y.value := by
  rw [le, order_eq, bne_iff_ne, compare_le_iff_le]

end SerialNumbers.Number.Scaled
