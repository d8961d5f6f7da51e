import RecordSql.Json.Basic
import RecordSql.Text.Decimal

/-!
The numbers of JSON text. A numeral is cut out by its grammar first and valued
afterwards. A whole numeral that 64 bits hold is a whole number, except that
minus zero, like every numeral with a fraction or an exponent, is a float.

A float is read in one pass: digits are collected as long as 64 bits hold them,
later whole digits only move the decimal point, later fraction digits are
dropped, and the collected number is moved to its decimal point by rounded
steps.
-/

namespace RecordSql.Json

structure Numeral where
  negative : Bool
  whole : List Char
  fraction : List Char := []
  exponent : Option Int := none
deriving DecidableEq

namespace Numeral

/-- The whole part: a single zero, or digits that do not start with one. -/
def cutWhole (text : List Char) : Option (List Char × List Char) :=
  let digits := text.takeWhile Text.isDigit
  let rest := text.dropWhile Text.isDigit
  match digits with
  | [] => none
  | '0' :: _ :: _ => none
  | _ => some (digits, rest)

/-- A point must be followed by a digit. -/
def cutFraction : List Char → Option (List Char × List Char)
  | '.' :: text =>
      let digits := text.takeWhile Text.isDigit
      if digits.isEmpty then none else some (digits, text.dropWhile Text.isDigit)
  | text => some ([], text)

def cutExponentDigits (negative : Bool) (text : List Char) :
    Option (Option Int × List Char) :=
  let digits := text.takeWhile Text.isDigit
  let exponent : Int := Text.naturalOf digits
  if digits.isEmpty then none
  else some (some (if negative then -exponent else exponent), text.dropWhile Text.isDigit)

/-- An exponent mark must be followed by a digit, after an optional sign. -/
def cutExponent : List Char → Option (Option Int × List Char)
  | mark :: text =>
      if mark = 'e' ∨ mark = 'E' then
        match text with
        | '-' :: digits => cutExponentDigits true digits
        | '+' :: digits => cutExponentDigits false digits
        | digits => cutExponentDigits false digits
      else some (none, mark :: text)
  | [] => some (none, [])

/-- The numeral at the front of a text. -/
def cut (text : List Char) : Option (Numeral × List Char) := do
  let (negative, text) :=
    match text with
    | '-' :: rest => (true, rest)
    | rest => (false, rest)
  let (whole, text) ← cutWhole text
  let (fraction, text) ← cutFraction text
  let (exponent, text) ← cutExponent text
  some ({ negative, whole, fraction, exponent }, text)

/-- Collects digits as long as 64 bits hold the number, and says how many of
them were left over. -/
def collect (held : Nat) : List Char → Nat × Nat
  | [] => (held, 0)
  | digit :: rest =>
      let next := 10 * held + Text.digitValue digit
      if next < twoTo 64 then collect next rest else (held, rest.length + 1)

/-- The numeral as a float; none where it is too large. -/
def toReal? (numeral : Numeral) : Option Binary64 :=
  let (whole, moved) := collect 0 numeral.whole
  let (held, dropped) := collect whole numeral.fraction
  let places : Int := (moved : Int) - (numeral.fraction.length - dropped : Nat)
  let magnitude := Binary64.ofInt held
  let shifted :=
    if numeral.fraction.isEmpty && numeral.exponent.isNone && moved == 0 then some magnitude
    else magnitude.shiftPoint? (places + numeral.exponent.getD 0)
  shifted.map fun number =>
    if numeral.negative then Binary64.ofMagnitude true (number.bits.toNat) else number

/-- None where the number is too large for a float. -/
def value? (numeral : Numeral) : Option JsonNumber :=
  let magnitude : Int := Text.naturalOf numeral.whole
  let number := if numeral.negative then -magnitude else magnitude
  if numeral.fraction.isEmpty && numeral.exponent.isNone &&
      !(numeral.negative && magnitude == 0) then
    match JsonNumber.ofInt? number with
    | some number => some number
    | none => numeral.toReal?.bind JsonNumber.ofReal?
  else numeral.toReal?.bind JsonNumber.ofReal?

end Numeral

end RecordSql.Json
