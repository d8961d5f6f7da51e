/-!
Whole numbers in decimal: the digits of a number and the number of a run of
digits. Only the ASCII digits count.
-/

namespace RecordSql.Text

def isDigit (c : Char) : Bool := '0' ≤ c && c ≤ '9'

def digitValue (c : Char) : Nat := c.toNat - '0'.toNat

def naturalOf (digits : List Char) : Nat := Nat.ofDigitChars 10 digits 0

def digitsOf (number : Nat) : List Char := Nat.toDigits 10 number

def decimal (number : Nat) : String := String.ofList (digitsOf number)

def signedDecimal (number : Int) : String :=
  if number < 0 then "-" ++ decimal number.natAbs else decimal number.natAbs

def padded (width number : Nat) : String :=
  let digits := digitsOf number
  String.ofList (List.replicate (width - digits.length) '0' ++ digits)

/-- An optional sign and at least one digit, and nothing else. -/
def integer? (text : List Char) : Option Int :=
  let magnitude? (digits : List Char) : Option Nat :=
    if digits.isEmpty || !digits.all isDigit then none else some (naturalOf digits)
  match text with
  | '-' :: digits => (magnitude? digits).map fun number => -(number : Int)
  | '+' :: digits => (magnitude? digits).map fun number => (number : Int)
  | digits => (magnitude? digits).map fun number => (number : Int)

end RecordSql.Text
