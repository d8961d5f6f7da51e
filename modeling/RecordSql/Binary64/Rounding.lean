import RecordSql.Binary64.Basic

/-!
Rounding a ratio of whole numbers to the nearest float, a tie going to the even
significand; what is too large becomes infinite. Products and quotients are
rounded once, from their exact values.
-/

namespace RecordSql.Binary64

def roundHalfEven (numerator denominator : Nat) : Nat :=
  let whole := numerator / denominator
  let twice := 2 * (numerator % denominator)
  if denominator < twice || (twice == denominator && whole % 2 == 1) then whole + 1
  else whole

/-- `numerator / denominator / 2 ^ scale`, as a ratio. -/
def rescale (numerator denominator : Nat) (scale : Int) : Nat × Nat :=
  (numerator * twoTo (-scale).toNat, denominator * twoTo scale.toNat)

/-- The rounded ratio fills a significand of 53 bits, unless the scale is the least. -/
def fittingScale (numerator denominator : Nat) : Int :=
  let low : Int := (numerator.log2 : Int) - denominator.log2 - 53
  let (above, below) := rescale numerator denominator low
  max (-1074) (if twoTo 53 ≤ above / below then low + 1 else low)

/-- A carry out of the significand moves the exponent field by itself. -/
def nearestMagnitude (numerator denominator : Nat) : Nat :=
  if numerator = 0 then 0
  else
    let scale := fittingScale numerator denominator
    let (above, below) := rescale numerator denominator scale
    min (specialField * fractions)
      ((scale + 1074).toNat * fractions + roundHalfEven above below)

def ofRatio (negative : Bool) (numerator denominator : Nat) : Binary64 :=
  ofMagnitude negative (nearestMagnitude numerator denominator)

def ofInt (number : Int) : Binary64 := ofRatio (number < 0) number.natAbs 1

def mul (x y : Binary64) : Binary64 :=
  ofRatio (x.isNegative != y.isNegative) (x.ratio.1 * y.ratio.1) (x.ratio.2 * y.ratio.2)

def div (x y : Binary64) : Binary64 :=
  ofRatio (x.isNegative != y.isNegative) (x.ratio.1 * y.ratio.2) (x.ratio.2 * y.ratio.1)

def powerOfTen (exponent : Nat) : Binary64 := ofRatio false (tenTo exponent) 1

/-- One product or quotient is rounded, or several quotients where the point goes far to
the left. A result that is not finite is refused. -/
def shiftPoint? (x : Binary64) (places : Int) : Option Binary64 :=
  if places.natAbs ≤ 308 then
    if 0 ≤ places then
      let product := mul x (powerOfTen places.natAbs)
      if product.isFinite then some product else none
    else some (div x (powerOfTen places.natAbs))
  else if x.isZero then some x
  else if 0 ≤ places then none
  else shiftPoint? (div x (powerOfTen 308)) (places + 308)
termination_by places.natAbs
decreasing_by omega

end RecordSql.Binary64
