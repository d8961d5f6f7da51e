import RecordSql.Failure
import RecordSql.Text.Blank

/-!
Version texts. Blanks, a sign and then digits are read; what follows the digits
plays no part. A blank text asks for no version in particular.
-/

namespace RecordSql.Version

/-- The text after a sign, and whether the sign is a minus. -/
def dropSign : List Char → Bool × List Char
  | '-' :: rest => (true, rest)
  | '+' :: rest => (false, rest)
  | text => (false, text)

/-- The version that digits stand for after a sign. -/
def ofDigits (text : String) (negative : Bool) (digits : List Char) :
    Except ConfigurationFault UInt32 :=
  let number := Text.naturalOf digits
  if digits.isEmpty then .error (.versionNotNumber text)
  else if UInt32.size ≤ number then .error (.versionTooLarge text)
  else if number = 0 ∨ negative then .error (.versionNotPositive text)
  else .ok (UInt32.ofNat number)

def read (text : String) : Except ConfigurationFault (Option UInt32) :=
  let trimmed := Text.trimStart text.toList
  if trimmed.isEmpty then .ok none
  else
    let (negative, unsigned) := dropSign trimmed
    (ofDigits text negative (unsigned.takeWhile Text.isDigit)).map some

end RecordSql.Version
