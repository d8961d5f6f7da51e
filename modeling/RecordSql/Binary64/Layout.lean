import RecordSql.Binary64.Shortest
import RecordSql.Text.Decimal

/-!
Writing floats. The digits are the shortest that identify the number; a layout
says where positional writing ends and how an exponent is marked. A positional
text always has a fraction, an exponent follows one leading digit.
-/

namespace RecordSql.Binary64

structure Layout where
  tie : Tie
  /-- The decimal points that are written positionally lie between these. -/
  leastPoint : Int
  greatestPoint : Int
  /-- What stands before an exponent that is not negative. -/
  plus : String

namespace Layout

def zeros (count : Int) : List Char := List.replicate count.toNat '0'

def positional (digits : List Char) (point : Int) : List Char :=
  if point ≤ 0 then '0' :: '.' :: zeros (-point) ++ digits
  else if point < digits.length then
    digits.take point.toNat ++ '.' :: digits.drop point.toNat
  else digits ++ zeros (point - digits.length) ++ ['.', '0']

def scientific (layout : Layout) (digits : List Char) (point : Int) : List Char :=
  let mantissa :=
    match digits with
    | first :: second :: rest => first :: '.' :: second :: rest
    | _ => digits
  let exponent := point - 1
  mantissa ++ 'e' :: (if exponent < 0 then [] else layout.plus.toList) ++
    (Text.signedDecimal exponent).toList

def write (layout : Layout) (x : Binary64) : String :=
  let magnitude : List Char :=
    if x.isZero then ['0', '.', '0']
    else
      let chosen := x.shortest layout.tie
      let digits := Text.digitsOf chosen.digits
      let point := digits.length + chosen.exponent
      if layout.leastPoint ≤ point ∧ point ≤ layout.greatestPoint then
        positional digits point
      else scientific layout digits point
  String.ofList (if x.isNegative then '-' :: magnitude else magnitude)

end Layout

/-- Messages write numbers from `0.0001` up to `10 ^ 16` positionally, and let a
tie go upward. -/
def inspectLayout : Layout := ⟨.upward, -3, 16, ""⟩

def inspect (x : Binary64) : String :=
  if x.isNaN then "NaN"
  else if x.isInfinite then if x.isNegative then "-inf" else "inf"
  else inspectLayout.write x

end RecordSql.Binary64
