/-
  SerialNumbers.Proofs.Number.Double

  Signs of doubles.  Rounding keeps the sign, and no product or sum of doubles
  without a sign has one; so the seconds since 1970 have none at any moment from
  then on (`Time.Moment.isNegative_epochSeconds`).
-/
import Mathlib.Algebra.Order.Ring.Unbundled.Rat
import SerialNumbers.Number.Double
import SerialNumbers.Time.Moment

namespace SerialNumbers

namespace Number.Double

variable {x y : Double}

theorem isNegative_ofRatio (negative : Bool) (num den : Nat) :
    (ofRatio negative num den).isNegative = negative := by
  fun_cases ofRatio negative num den with
  | case1 => rfl
  | case2 => rfl
  | case3 => rfl

theorem isNegative_ofRat {q : Rat} (h : 0 ≤ q) : (ofRat q).isNegative = false := by
  unfold ofRat
  rw [isNegative_ofRatio, decide_eq_false (Int.not_lt.mpr (Rat.num_nonneg.mpr h))]

theorem isNegative_ofInt {n : Int} (h : 0 ≤ n) : (ofInt n).isNegative = false := by
  unfold ofInt
  rw [isNegative_ofRatio, decide_eq_false (Int.not_lt.mpr h)]

theorem toRat?_nonneg (h : x.isNegative = false) {q : Rat} (hq : x.toRat? = some q) : 0 ≤ q := by
  cases x with
  | finite negative mantissa exponent =>
    cases h
    rw [← Option.some.inj hq]
    exact Rat.mkRat_nonneg (Int.natCast_nonneg _) _
  | infinite negative => cases hq
  | nan => cases hq

theorem toRat_nonneg (h : x.isNegative = false) : 0 ≤ x.toRat := by
  unfold toRat
  cases hq : x.toRat? with
  | none => exact Rat.le_refl
  | some q => exact toRat?_nonneg h hq

theorem truncate_nonneg (h : x.isNegative = false) : 0 ≤ x.truncate?.getD 0 := by
  unfold truncate?
  cases hq : x.toRat? with
  | none => exact Int.le_refl 0
  | some q =>
    exact Int.tdiv_nonneg (Rat.num_nonneg.mpr (toRat?_nonneg h hq)) (Int.natCast_nonneg _)

theorem isNegative_mul (hx : x.isNegative = false) (hy : y.isNegative = false) :
    (x.mul y).isNegative = false := by
  unfold mul
  rw [hx, hy]
  dsimp only
  split
  · rfl
  · rfl
  · split <;> rfl
  · split <;> rfl
  · exact isNegative_ofRatio _ _ _

theorem isNegative_add (hx : x.isNegative = false) (hy : y.isNegative = false) :
    (x.add y).isNegative = false := by
  unfold add
  split
  · rfl
  · rfl
  · split
    · exact hx
    · rfl
  · exact hx
  · exact hy
  · dsimp only
    split
    · rename_i s _ _ t _ _ _
      have hs : s = false := hx
      rw [hs]
      rfl
    · exact isNegative_ofRat (Rat.add_nonneg (toRat_nonneg hx) (toRat_nonneg hy))

end Number.Double

namespace Time

open Number

/-- The seconds since 1970 have no sign from then on. -/
theorem Moment.isNegative_epochSeconds {m : Moment} (hm : epochReading ≤ m.instant) {x : Double}
    (h : m.epochSeconds = .ok x) : x.isNegative = false := by
  unfold epochSeconds at h
  split at h
  · rw [← Except.ok.inj h]
    exact Double.isNegative_ofRat (Rat.mkRat_nonneg (Int.sub_nonneg.mpr hm) _)
  · rename_i hzone
    have hinstant : m.instant = m.reading := by
      unfold instant offset?
      rw [hzone]
      exact Int.sub_zero _
    rw [hinstant] at hm
    split at h
    · cases h
    · split at h
      · cases h
      · rw [← Except.ok.inj h]
        refine Double.isNegative_add (Double.isNegative_ofInt ?_) (Double.isNegative_ofRatio _ _ _)
        exact Int.ediv_nonneg (Int.sub_nonneg.mpr hm) (by decide)

end Time

end SerialNumbers
