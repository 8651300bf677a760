import AppConfig.Decimal.Binary64
import Mathlib.Algebra.Order.Field.Rat
import Mathlib.Tactic.Linarith
import Mathlib.Tactic.Positivity

/-!
# AppConfig.Proofs.Decimal.Sign

What the bits of a number say about its sign: `isNegative` holds of the negative infinity and of
the finite numbers whose value is below zero, and of no others.
-/

namespace AppConfig.Binary64

/-- The value of a finite number. -/
def value (x : Binary64) : ℚ :=
  (if x.signBit then -1 else 1) * ((x.ratio.1 : ℚ) / (x.ratio.2 : ℚ))

/-- Strictly below zero, as a number. -/
def BelowZero (x : Binary64) : Prop :=
  (x.isInfinite = true ∧ x.signBit = true) ∨ (x.isFinite = true ∧ x.value < 0)

theorem twoTo_pos (n : Nat) : 0 < twoTo n := Nat.pow_pos (by decide)

theorem ratio_snd_pos (x : Binary64) : 0 < x.ratio.2 := by
  unfold ratio
  split
  · exact Nat.one_pos
  · exact twoTo_pos _

/-- A number is zero when exponent and fraction are. -/
theorem isZero_iff (x : Binary64) :
    x.isZero = true ↔ x.exponentField = 0 ∧ x.fraction = 0 := by
  have h63 : twoTo 63 = 9223372036854775808 := by decide
  have h52 : twoTo 52 = 4503599627370496 := by decide
  have h11 : twoTo 11 = 2048 := by decide
  simp only [isZero, exponentField, fraction, h63, h52, h11, beq_iff_eq]
  omega

theorem ratio_fst_eq_zero_iff (x : Binary64) : x.ratio.1 = 0 ↔ x.isZero = true := by
  have hsig : x.ratio.1 = 0 ↔ x.significand = 0 := by
    unfold ratio
    split
    · have := twoTo_pos x.unit.toNat
      simp only [Nat.mul_eq_zero]
      omega
    · exact Iff.rfl
  have := twoTo_pos 52
  rw [hsig, isZero_iff, significand]
  split <;> omega

theorem value_neg_iff (x : Binary64) :
    x.value < 0 ↔ x.signBit = true ∧ x.isZero = false := by
  have hden : (0 : ℚ) < x.ratio.2 := by exact_mod_cast ratio_snd_pos x
  rw [← Bool.not_eq_true, ← ratio_fst_eq_zero_iff, value]
  cases hs : x.signBit with
  | false =>
    have : (0 : ℚ) ≤ (x.ratio.1 : ℚ) / x.ratio.2 := by positivity
    simp only [Bool.false_eq_true, if_false, false_and, iff_false, not_lt]
    linarith
  | true =>
    simp only [if_true, true_and]
    constructor
    · intro hlt hz
      simp [hz] at hlt
    · intro hz
      have : (0 : ℚ) < (x.ratio.1 : ℚ) / x.ratio.2 := by
        have : (0 : ℚ) < x.ratio.1 := by exact_mod_cast Nat.pos_of_ne_zero hz
        positivity
      linarith

theorem isNegative_iff (x : Binary64) : x.isNegative = true ↔ x.BelowZero := by
  rw [BelowZero, value_neg_iff]
  have hz := isZero_iff x
  by_cases hexp : x.exponentField = 2047
  · -- infinite or not a number; never zero
    have hnz : x.isZero = false := by
      rw [← Bool.not_eq_true, hz]
      omega
    by_cases hf : x.fraction = 0 <;>
      simp [isNegative, isNaN, isInfinite, isFinite, hexp, hf, hnz]
  · simp [isNegative, isNaN, isInfinite, isFinite, hexp]

end AppConfig.Binary64
