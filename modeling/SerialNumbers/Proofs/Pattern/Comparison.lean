/-
  SerialNumbers.Proofs.Pattern.Comparison

  The four comparisons of a condition as one linear order.  They ask for the
  order of the numbers that value and operand denote, exactly and however the
  two are spelled, and none of them holds where one is no number.
-/
import SerialNumbers.Pattern.Condition
import SerialNumbers.Proofs.Number.Reading

namespace SerialNumbers.Pattern

open Number

/-! ## The order of numbers -/

/-- The comparisons of numbers. -/
inductive NumericOperator where
  | greater
  | less
  | atLeast
  | atMost

namespace NumericOperator

def operator : NumericOperator → Operator
  | greater => .greater
  | less => .less
  | atLeast => .atLeast
  | atMost => .atMost

/-- How the two numbers must stand. -/
def Relates : NumericOperator → ℚ → ℚ → Prop
  | greater, x, y => y < x
  | less, x, y => x < y
  | atLeast, x, y => y ≤ x
  | atMost, x, y => x ≤ y

theorem Relates.trans {o : NumericOperator} {x y z : ℚ} (hxy : o.Relates x y)
    (hyz : o.Relates y z) : o.Relates x z := by
  cases o with
  | greater => exact lt_trans hyz hxy
  | less => exact lt_trans hxy hyz
  | atLeast => exact le_trans hyz hxy
  | atMost => exact le_trans hxy hyz

end NumericOperator

/-- The text denotes a number. -/
def IsNumeric (s : String) : Prop :=
  ∃ q, Denotes s q

/-- One of three statements is true and the other two are not. -/
def ExactlyOne (p q r : Prop) : Prop :=
  (p ∧ ¬q ∧ ¬r) ∨ (¬p ∧ q ∧ ¬r) ∨ (¬p ∧ ¬q ∧ r)

/-- Relations of texts that are the linear order of the numbers which the texts denote. -/
structure NumericOrder (holds : NumericOperator → String → String → Prop) : Prop where
  /-- The numbers are compared as they are, without any rounding. -/
  faithful : ∀ o a b, holds o a b ↔ ∃ x y, Denotes a x ∧ Denotes b y ∧ o.Relates x y
  /-- Nothing holds of what is no number, on either side. -/
  unread : ∀ a b, ¬(IsNumeric a ∧ IsNumeric b) → ∀ o, ¬holds o a b
  trichotomy : ∀ a b, IsNumeric a → IsNumeric b →
    ExactlyOne (holds .greater a b) (holds .less a b) (holds .atLeast a b ∧ holds .atMost a b)
  not_less : ∀ a b, IsNumeric a → IsNumeric b → (holds .atLeast a b ↔ ¬holds .less a b)
  not_greater : ∀ a b, IsNumeric a → IsNumeric b → (holds .atMost a b ↔ ¬holds .greater a b)
  transitive : ∀ o a b c, holds o a b → holds o b c → holds o a c
  /-- Spellings of one number take each other's place, as value and as operand. -/
  interchange : ∀ a a' q, Denotes a q → Denotes a' q → ∀ o b,
    (holds o a b ↔ holds o a' b) ∧ (holds o b a ↔ holds o b a')

/-- Whatever compares the numbers of two texts faithfully is their linear order. -/
theorem NumericOrder.of_faithful {holds : NumericOperator → String → String → Prop}
    (h : ∀ o a b, holds o a b ↔ ∃ x y, Denotes a x ∧ Denotes b y ∧ o.Relates x y) :
    NumericOrder holds := by
  -- Of two numbers a comparison asks how they stand, since each text denotes one number.
  have hnumbers {a b : String} {x y : ℚ} (ha : Denotes a x) (hb : Denotes b y)
      (o : NumericOperator) : holds o a b ↔ o.Relates x y := by
    rw [h]
    constructor
    · rintro ⟨x', y', ha', hb', hrelates⟩
      rwa [ha.unique ha', hb.unique hb']
    · exact fun hrelates => ⟨x, y, ha, hb, hrelates⟩
  refine
    { faithful := h
      unread := ?_
      trichotomy := ?_
      not_less := ?_
      not_greater := ?_
      transitive := ?_
      interchange := ?_ }
  · rintro a b hunread o hholds
    obtain ⟨x, y, ha, hb, -⟩ := (h o a b).mp hholds
    exact hunread ⟨⟨x, ha⟩, y, hb⟩
  · rintro a b ⟨x, ha⟩ ⟨y, hb⟩
    simp only [ExactlyOne, hnumbers ha hb, NumericOperator.Relates]
    rcases lt_trichotomy x y with hlt | rfl | hgt
    · right; left
      exact ⟨hlt.not_gt, hlt, fun hboth => hboth.1.not_gt hlt⟩
    · right; right
      exact ⟨lt_irrefl x, lt_irrefl x, le_refl x, le_refl x⟩
    · left
      exact ⟨hgt, hgt.not_gt, fun hboth => hboth.2.not_gt hgt⟩
  · rintro a b ⟨x, ha⟩ ⟨y, hb⟩
    rw [hnumbers ha hb, hnumbers ha hb]
    exact not_lt.symm
  · rintro a b ⟨x, ha⟩ ⟨y, hb⟩
    rw [hnumbers ha hb, hnumbers ha hb]
    exact not_lt.symm
  · intro o a b c hab hbc
    obtain ⟨x, y, ha, hb, hxy⟩ := (h o a b).mp hab
    obtain ⟨y', z, hb', hc, hyz⟩ := (h o b c).mp hbc
    rw [hnumbers ha hc]
    rw [hb'.unique hb] at hyz
    exact hxy.trans hyz
  · intro a a' q ha ha' o b
    have hsame (p : ℚ) : Denotes a p ↔ Denotes a' p := by
      constructor
      · intro hp
        rwa [hp.unique ha]
      · intro hp
        rwa [hp.unique ha']
    simp only [h, hsame, and_self]

/-! ## Conditions -/

namespace Condition

/-- A test that asks how two numbers stand holds of the texts of numbers that stand so. -/
theorem numbers_iff {test : Scaled → Scaled → Bool} (relates : ℚ → ℚ → Prop)
    (h : ∀ x y : Scaled, test x y = true ↔ relates x.value y.value) {a b : String} :
    numbers test a b = true ↔ ∃ x y, Denotes a x ∧ Denotes b y ∧ relates x y := by
  simp only [denotes_iff]
  unfold numbers
  split
  · rename_i x y hx hy
    rw [h, hx, hy]
    simp
  · rename_i hnone
    constructor
    · nofun
    · rintro ⟨_, _, ⟨x, hx, -⟩, ⟨y, hy, -⟩, -⟩
      exact absurd hy (hnone x y hx)

theorem compares_iff (o : NumericOperator) {a b : String} :
    compares o.operator a b = true ↔ ∃ x y, Denotes a x ∧ Denotes b y ∧ o.Relates x y := by
  cases o with
  | greater => exact numbers_iff (NumericOperator.Relates .greater) fun _ _ => Scaled.lt_iff
  | less => exact numbers_iff (NumericOperator.Relates .less) fun _ _ => Scaled.lt_iff
  | atLeast => exact numbers_iff (NumericOperator.Relates .atLeast) fun _ _ => Scaled.le_iff
  | atMost => exact numbers_iff (NumericOperator.Relates .atMost) fun _ _ => Scaled.le_iff

/-- The condition that compares a variable of this value with an operand holds. -/
def Asserts (subject : String) (o : NumericOperator) (value operand : String) : Prop :=
  (Condition.mk subject (some (o.operator, operand))).holds (some value) = true

/-- A variable without a value counts as the empty text, which is no number. -/
theorem not_holds_none (subject : String) (o : NumericOperator) (operand : String) :
    ¬(Condition.mk subject (some (o.operator, operand))).holds none = true := by
  have hempty : Decimal.readFinite? "" = none := by decide
  intro hholds
  obtain ⟨x, _, hx, -⟩ := (compares_iff o).mp hholds
  obtain ⟨_, hread, -⟩ := denotes_iff.mp hx
  simp [hempty] at hread

/-- Conditions compare value and operand as the numbers that they denote. -/
theorem numericOrder (subject : String) : NumericOrder (Asserts subject) :=
  .of_faithful fun o _ _ => compares_iff o

/-- Two numbers with more digits between them than a double has. -/
example : (Condition.mk "AMOUNT" (some (.greater, "999_999_999_999_999_999_999.9"))).holds
    (some " 1e21 ") = true := by
  decide +kernel

end Condition

end SerialNumbers.Pattern
