import RecordSql.Binary64.Rounding
import RecordSql.SortedMap

/-!
JSON values. A number is a whole number of at most 64 bits, signed or not, or a
finite float; `1` and `1.0` are different numbers. The members of an object are
listed by ascending name.
-/

namespace RecordSql

inductive JsonNumber where
  | integer (number : Int) (low : -9223372036854775808 ≤ number)
      (high : number < 18446744073709551616)
  | real (number : Binary64) (finite : number.isFinite = true)
deriving DecidableEq

inductive Json where
  | null
  | bool (value : Bool)
  | number (value : JsonNumber)
  | string (value : String)
  | array (items : List Json)
  | object (members : List (String × Json))

instance : Inhabited Json := ⟨.null⟩

namespace JsonNumber

/-- The whole number, where 64 bits hold it. -/
def ofInt? (number : Int) : Option JsonNumber :=
  if fits : -9223372036854775808 ≤ number ∧ number < 18446744073709551616 then
    some (.integer number fits.1 fits.2)
  else
    none

def ofReal? (number : Binary64) : Option JsonNumber :=
  if finite : number.isFinite = true then some (.real number finite) else none

def ofInt64 (number : Int64) : JsonNumber :=
  .integer number.toInt number.le_toInt (Int.lt_trans number.toInt_lt (by decide))

def ofUInt8 (number : UInt8) : JsonNumber :=
  .integer number.toNat (by omega) (by have := number.toNat_lt; omega)

def ofUInt32 (number : UInt32) : JsonNumber :=
  .integer number.toNat (by omega) (by have := number.toNat_lt; omega)

/-- The number as a float. -/
def toReal : JsonNumber → Binary64
  | .integer number _ _ => Binary64.ofInt number
  | .real number _ => number

/-- The whole number, where it was written as one and 64 signed bits hold it. -/
def toInt64? : JsonNumber → Option Int64
  | .integer number _ _ =>
      if number < 9223372036854775808 then some (Int64.ofInt number) else none
  | .real _ _ => none

end JsonNumber

namespace Json

/-- Of members with one name the last counts. -/
def ofMembers (members : List (String × Json)) : Json :=
  .object (SortedMap.ofList members).entries

/-- What is not finite has no JSON number. -/
def ofReal (number : Binary64) : Json :=
  match JsonNumber.ofReal? number with
  | some number => .number number
  | none => .null

def ofInt64 (number : Int64) : Json := .number (.ofInt64 number)

def ofNat (number : Nat) : Json :=
  match JsonNumber.ofInt? number with
  | some number => .number number
  | none => .ofReal (Binary64.ofInt number)

def ofUInt32 (number : UInt32) : Json := .number (.ofUInt32 number)

def ofOption {Item : Type} (write : Item → Json) : Option Item → Json
  | some item => write item
  | none => .null

def member? (name : String) : Json → Option Json
  | .object members => SortedMap.findIn name members
  | _ => none

end Json

end RecordSql
