import RecordSql.Binary64.Basic

/-!
The fewest decimal digits that identify a finite float. The reals that round to
it form an interval, ends included when the significand is even. On the grid of
one, two, three … digits its two neighbours are tried; the first grid with a
neighbour in the interval gives the digits, the nearer one if both are.
-/

namespace RecordSql.Binary64

structure Digits where
  digits : Nat
  exponent : Int
deriving DecidableEq

/-- Where a decimal exactly halfway between two neighbours goes. -/
inductive Tie where
  | toEven
  | upward
deriving DecidableEq

/-- `digits * 10 ^ exponent` against `quarters * 2 ^ scale`, exactly. -/
def compareScaled (decimal : Digits) (quarters : Nat) (scale : Int) : Ordering :=
  compare (decimal.digits * tenTo decimal.exponent.toNat * twoTo (-scale).toNat)
    (quarters * twoTo scale.toNat * tenTo (-decimal.exponent).toNat)

def identifies (x : Binary64) (decimal : Digits) : Bool :=
  let quarters := 4 * x.significand
  -- Below a power of two the floats are twice as close as above it.
  let narrow := x.fraction == 0 && 1 < x.exponentField
  let lower := compareScaled decimal (quarters - if narrow then 1 else 2) (x.scale - 2)
  let upper := compareScaled decimal (quarters + 2) (x.scale - 2)
  let even := x.significand % 2 == 0
  (lower == .gt || (even && lower == .eq)) && (upper == .lt || (even && upper == .eq))

def wholeAt (x : Binary64) (places : Int) : Nat :=
  x.ratio.1 * tenTo places.toNat / (x.ratio.2 * tenTo (-places).toNat)

/-- The least `point` with the magnitude below `10 ^ point`; for zero it is -323. -/
def decimalPoint (x : Binary64) : Int :=
  (Nat.toDigits 10 (x.wholeAt 324)).length - 324

def onGrid? (tie : Tie) (x : Binary64) (count : Nat) : Option Digits :=
  let exponent := x.decimalPoint - count
  let below : Digits := ⟨x.wholeAt (-exponent), exponent⟩
  let above : Digits := ⟨below.digits + 1, exponent⟩
  match x.identifies below, x.identifies above with
  | true, true =>
      match compareScaled ⟨2 * below.digits + 1, exponent⟩ (2 * x.significand) x.scale with
      | .lt => some above
      | .gt => some below
      | .eq =>
          match tie with
          | .toEven => some (if below.digits % 2 == 0 then below else above)
          | .upward => some above
  | true, false => some below
  | false, true => some above
  | false, false => none

def stripZeros (decimal : Digits) : Digits :=
  if 0 < decimal.digits ∧ decimal.digits % 10 = 0 then
    stripZeros ⟨decimal.digits / 10, decimal.exponent + 1⟩
  else decimal
termination_by decimal.digits
decreasing_by omega

/-- Seventeen digits always suffice. -/
def shortest (tie : Tie) (x : Binary64) : Digits :=
  let found := (List.range 17).findSome? fun fewer => x.onGrid? tie (fewer + 1)
  let exponent := x.decimalPoint - 17
  stripZeros (found.getD ⟨x.wholeAt (-exponent), exponent⟩)

end RecordSql.Binary64
