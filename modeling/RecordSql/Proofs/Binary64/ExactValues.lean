import Mathlib.Algebra.Order.Ring.Rat
import Mathlib.Data.Nat.Cast.Field
import Mathlib.Tactic.FieldSimp
import Mathlib.Tactic.Ring
import RecordSql.Binary64.Basic

/-!
The rational number that a finite float is. A float is taken for a whole number exactly if
this rational number is whole.
-/

namespace RecordSql.Binary64

/-- By the fields of the format: below the least normal exponent there is no leading one. -/
def magnitude (x : Binary64) : ℚ :=
  if x.exponentField = 0 then x.fraction / 2 ^ 52 * 2 ^ (-1022 : ℤ)
  else (1 + x.fraction / 2 ^ 52) * 2 ^ ((x.exponentField : ℤ) - 1023)

def exactValue (x : Binary64) : ℚ := if x.isNegative then -x.magnitude else x.magnitude

theorem magnitude_eq_scaled (x : Binary64) :
    x.magnitude = x.significand * (2 : ℚ) ^ x.scale := by
  have size : (fractions : ℚ) = 2 ^ 52 := by norm_num [fractions, twoTo]
  have places : (2 : ℚ) ^ (52 : ℤ) = 2 ^ 52 := zpow_natCast 2 52
  simp only [magnitude, significand, scale]
  split
  case isTrue =>
    have shift : (-1022 : ℤ) = -1074 + 52 := rfl
    rw [shift, zpow_add₀ two_ne_zero, places]
    field_simp
  case isFalse =>
    have shift : (x.exponentField : ℤ) - 1023 = (x.exponentField - 1075) + 52 := by ring
    rw [shift, zpow_add₀ two_ne_zero, places, Nat.cast_add, size]
    field_simp

theorem ratio_pos (x : Binary64) : 0 < x.ratio.2 := twoTo_pos _

theorem magnitude_eq_ratio (x : Binary64) : x.magnitude = x.ratio.1 / x.ratio.2 := by
  have split : (2 : ℚ) ^ x.scale = 2 ^ x.scale.toNat / 2 ^ (-x.scale).toNat := by
    rw [← zpow_natCast, ← zpow_natCast, ← zpow_sub₀ two_ne_zero, Int.toNat_sub_toNat_neg]
  have power : ∀ exponent : ℕ, (twoTo exponent : ℚ) = 2 ^ exponent := fun exponent => by
    rw [twoTo, Nat.pow_eq, Nat.cast_pow, Nat.cast_two]
  rw [magnitude_eq_scaled, split, ratio, Nat.cast_mul, power, power, mul_div_assoc]

/-- A whole magnitude has a ratio that divides. -/
theorem magnitude_whole {x : Binary64} {number : ℤ} (whole : x.magnitude = number) :
    x.ratio.1 % x.ratio.2 = 0 := by
  have positive : (x.ratio.2 : ℚ) ≠ 0 := Nat.cast_ne_zero.mpr x.ratio_pos.ne'
  rw [magnitude_eq_ratio, div_eq_iff positive] at whole
  have product : (x.ratio.1 : ℤ) = number * x.ratio.2 := by exact_mod_cast whole
  exact Nat.mod_eq_zero_of_dvd (Int.natCast_dvd_natCast.mp ⟨number, by rw [product, mul_comm]⟩)

theorem magnitude_of_divides {x : Binary64} (divides : x.ratio.1 % x.ratio.2 = 0) :
    x.magnitude = (x.ratio.1 / x.ratio.2 : ℕ) := by
  have positive : (x.ratio.2 : ℚ) ≠ 0 := Nat.cast_ne_zero.mpr x.ratio_pos.ne'
  rw [magnitude_eq_ratio, Nat.cast_div (Nat.dvd_of_mod_eq_zero divides) positive]

theorem integer?_eq_some_iff {x : Binary64} {number : ℤ} :
    x.integer? = some number ↔ x.isFinite = true ∧ x.exactValue = number := by
  by_cases divides : x.ratio.1 % x.ratio.2 = 0
  · let quotient : ℤ := (x.ratio.1 / x.ratio.2 : ℕ)
    have whole : x.magnitude = quotient := magnitude_of_divides divides
    have read : x.integer? =
        if x.isFinite then some (if x.isNegative then -quotient else quotient) else none := by
      simp only [integer?, divides, beq_self_eq_true, Bool.and_true, quotient]
    rw [read, Option.ite_none_right_eq_some, Option.some.injEq, exactValue, whole]
    refine and_congr_right fun _ => ?_
    split
    case isTrue => rw [← Int.cast_neg, Int.cast_inj]
    case isFalse => rw [Int.cast_inj]
  · have unread : x.integer? = none := by simp [integer?, divides]
    rw [unread]
    refine iff_of_false nofun fun ⟨_, whole⟩ => divides ?_
    rw [exactValue] at whole
    split at whole
    case isTrue =>
      have opposite : x.magnitude = (-number : ℤ) := by
        rw [Int.cast_neg]
        exact neg_eq_iff_eq_neg.mp whole
      exact magnitude_whole opposite
    case isFalse => exact magnitude_whole whole

end RecordSql.Binary64
