import RecordSql.Binary64.Rounding

/-!
Whole numbers of 64 bits as floats. The scale that rounding picks leaves at most
54 bits in front of the point, and it is far below the scale at which floats
end, so the float nearest to such a number is finite.
-/

namespace RecordSql

theorem twoTo_add (first second : Nat) :
    twoTo (first + second) = twoTo first * twoTo second := Nat.pow_add 2 first second

namespace Binary64

/-- Below the magnitude of the infinities, with any sign. -/
theorem ofMagnitude_isFinite {magnitude : Nat} (small : magnitude < specialField * fractions)
    (negative : Bool) : (ofMagnitude negative magnitude).isFinite = true := by
  have size : fractions = 4503599627370496 := rfl
  have sign : twoTo 63 = 9223372036854775808 := rfl
  have special : specialField = 2047 := rfl
  have below : (ofMagnitude negative magnitude).exponentField < specialField := by
    simp only [exponentField, ofMagnitude, UInt64.toNat_ofNat', size, sign, special] at small ⊢
    -- The sign bit stands above the exponent field and is cut off with what is above it.
    split <;> omega
  simpa [isFinite] using Nat.ne_of_lt below

/-- At a scale that is not too low, 54 bits hold what stands in front of the point. -/
theorem rescale_lt {number : Nat} {scale : Int} (enough : (number.log2 : Int) - 53 ≤ scale) :
    (rescale number 1 scale).1 / (rescale number 1 scale).2 < twoTo 54 := by
  have top : number < twoTo (number.log2 + 1) := Nat.lt_log2_self
  have exponents : number.log2 + 1 + (-scale).toNat ≤ 54 + scale.toNat := by omega
  simp only [rescale, Nat.one_mul]
  apply (Nat.div_lt_iff_lt_mul (twoTo_pos _)).mpr
  calc number * twoTo (-scale).toNat
      < twoTo (number.log2 + 1) * twoTo (-scale).toNat :=
        Nat.mul_lt_mul_of_pos_right top (twoTo_pos _)
    _ = twoTo (number.log2 + 1 + (-scale).toNat) := (twoTo_add _ _).symm
    _ ≤ twoTo (54 + scale.toNat) := Nat.pow_le_pow_right (by decide) exponents
    _ = twoTo 54 * twoTo scale.toNat := twoTo_add _ _

theorem roundHalfEven_le (numerator denominator : Nat) :
    roundHalfEven numerator denominator ≤ numerator / denominator + 1 := by
  simp only [roundHalfEven]
  split <;> omega

theorem nearestMagnitude_lt {number : Nat} (small : number < twoTo 64) :
    nearestMagnitude number 1 < specialField * fractions := by
  have limit : specialField * fractions = 2047 * fractions := rfl
  have front : twoTo 54 = 4 * fractions := rfl
  have size : 1 < fractions := by decide
  simp only [nearestMagnitude]
  split
  case isTrue => decide
  case isFalse nonzero =>
    have bits : number.log2 < 64 := (Nat.log2_lt nonzero).mpr small
    have one : Nat.log2 1 = 0 := rfl
    have low : (number.log2 : Int) - 53 ≤ fittingScale number 1 := by
      simp only [fittingScale, one]
      split <;> omega
    have high : fittingScale number 1 ≤ 11 := by
      simp only [fittingScale, one]
      split <;> omega
    have whole := rescale_lt low
    have rounded := roundHalfEven_le (rescale number 1 (fittingScale number 1)).1
      (rescale number 1 (fittingScale number 1)).2
    have scaled : (fittingScale number 1 + 1074).toNat * fractions ≤ 1085 * fractions :=
      Nat.mul_le_mul_right _ (by omega)
    apply Nat.lt_of_le_of_lt (Nat.min_le_right _ _)
    omega

/-- Every whole number of 64 bits, signed or not, has a finite float. -/
theorem ofInt_isFinite {number : Int} (small : number.natAbs < twoTo 64) :
    (ofInt number).isFinite = true :=
  ofMagnitude_isFinite (nearestMagnitude_lt small) _

end Binary64

end RecordSql
