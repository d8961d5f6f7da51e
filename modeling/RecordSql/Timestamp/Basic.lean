import RecordSql.Text.Decimal

/-!
Points in time without a zone: a day of the proleptic Gregorian calendar and a
time of day to the nanosecond. A leap second is told by nanoseconds from one
thousand million up; it is written as the second after the one it stands on.
-/

namespace RecordSql

namespace Calendar

def firstYear : Int := -262143

def lastYear : Int := 262142

def isLeapYear (year : Int) : Bool :=
  year % 4 == 0 && (year % 100 != 0 || year % 400 == 0)

def daysIn (year : Int) (month : Nat) : Nat :=
  match month with
  | 2 => if isLeapYear year then 29 else 28
  | 4 | 6 | 9 | 11 => 30
  | _ => 31

def HasDay (year : Int) (month day : Nat) : Prop :=
  firstYear ≤ year ∧ year ≤ lastYear ∧ 1 ≤ month ∧ month ≤ 12 ∧
    1 ≤ day ∧ day ≤ daysIn year month

instance (year : Int) (month day : Nat) : Decidable (HasDay year month day) := by
  unfold HasDay
  infer_instance

end Calendar

structure Timestamp where
  year : Int
  month : Nat
  day : Nat
  hour : Nat
  minute : Nat
  second : Nat
  nanosecond : Nat
  onCalendar : Calendar.HasDay year month day
  inDay : hour < 24 ∧ minute < 60 ∧ second < 60 ∧ nanosecond < 2000000000
deriving DecidableEq

namespace Timestamp

def of? (year : Int) (month day hour minute second nanosecond : Nat) : Option Timestamp :=
  if onCalendar : Calendar.HasDay year month day then
    if inDay : hour < 24 ∧ minute < 60 ∧ second < 60 ∧ nanosecond < 2000000000 then
      some ⟨year, month, day, hour, minute, second, nanosecond, onCalendar, inDay⟩
    else none
  else none

/-- Years of four digits stand alone; all others carry a sign. -/
def yearText (year : Int) : String :=
  if 0 ≤ year ∧ year ≤ 9999 then Text.padded 4 year.natAbs
  else (if year < 0 then "-" else "+") ++ Text.padded 4 year.natAbs

/-- Nothing, three, six or nine digits, whichever is enough. -/
def fractionText (nanosecond : Nat) : String :=
  if nanosecond = 0 then ""
  else if nanosecond % 1000000 = 0 then "." ++ Text.padded 3 (nanosecond / 1000000)
  else if nanosecond % 1000 = 0 then "." ++ Text.padded 6 (nanosecond / 1000)
  else "." ++ Text.padded 9 nanosecond

def write (separator : String) (time : Timestamp) : String :=
  yearText time.year ++ "-" ++ Text.padded 2 time.month ++ "-" ++ Text.padded 2 time.day ++
    separator ++ Text.padded 2 time.hour ++ ":" ++ Text.padded 2 time.minute ++ ":" ++
    Text.padded 2 (time.second + time.nanosecond / 1000000000) ++
    fractionText (time.nanosecond % 1000000000)

/-- The form that is stored and read back. -/
def stored : Timestamp → String := write "T"

/-- The form that reports and exports show. -/
def reported : Timestamp → String := write " "

end Timestamp

end RecordSql
