import RecordSql.Power

/-!
Floating-point numbers of 64 bits, kept as their bits. A finite number is a
sign, a significand and a power of two; every question about its value is
answered in whole numbers, so nothing here rounds.
-/

namespace RecordSql

structure Binary64 where
  bits : UInt64
deriving DecidableEq

namespace Binary64

def fractions : Nat := twoTo 52

/-- The exponent field of the infinities and of what is not a number. -/
def specialField : Nat := 2047

def isNegative (x : Binary64) : Bool := twoTo 63 ≤ x.bits.toNat

def exponentField (x : Binary64) : Nat := x.bits.toNat / fractions % 2048

def fraction (x : Binary64) : Nat := x.bits.toNat % fractions

def isFinite (x : Binary64) : Bool := x.exponentField != specialField

def isNaN (x : Binary64) : Bool := x.exponentField == specialField && x.fraction != 0

def isInfinite (x : Binary64) : Bool := x.exponentField == specialField && x.fraction == 0

/-- The magnitude of a finite number is `significand * 2 ^ scale`. -/
def significand (x : Binary64) : Nat :=
  if x.exponentField = 0 then x.fraction else fractions + x.fraction

def scale (x : Binary64) : Int :=
  if x.exponentField = 0 then -1074 else (x.exponentField : Int) - 1075

def isZero (x : Binary64) : Bool := x.isFinite && x.significand == 0

def ratio (x : Binary64) : Nat × Nat :=
  (x.significand * twoTo x.scale.toNat, twoTo (-x.scale).toNat)

def integer? (x : Binary64) : Option Int :=
  let (numerator, denominator) := x.ratio
  if x.isFinite && numerator % denominator == 0 then
    let magnitude : Int := (numerator / denominator : Nat)
    some (if x.isNegative then -magnitude else magnitude)
  else
    none

/-- The number with this magnitude field, below the sign bit. -/
def ofMagnitude (negative : Bool) (magnitude : Nat) : Binary64 :=
  ⟨UInt64.ofNat (if negative then twoTo 63 + magnitude else magnitude)⟩

end Binary64

end RecordSql
