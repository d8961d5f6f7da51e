import RecordSql.Power
import RecordSql.Text.Blank
import RecordSql.Timestamp.Basic

/-!
Reading the stored form of a timestamp. Blanks may stand before every part and
at the end. A year without a sign has at most four digits, the other parts at
most two; second 60 is the leap second of second 59. Of a fraction the first
nine digits count.
-/

namespace RecordSql.Timestamp

/-- One to `most` digits. -/
def readDigits (most : Nat) (text : List Char) : Option (List Char × List Char) :=
  let digits := (text.take most).takeWhile Text.isDigit
  if digits.isEmpty then none else some (digits, text.drop digits.length)

/-- A number of at most two digits, after blanks. -/
def readPart (text : List Char) : Option (Nat × List Char) :=
  (readDigits 2 (Text.trimStart text)).map fun (digits, rest) =>
    (Text.naturalOf digits, rest)

/-- A sign lifts the limit on the digits of a year. -/
def readYear (text : List Char) : Option (Int × List Char) :=
  match Text.trimStart text with
  | '-' :: rest =>
      (readDigits rest.length rest).map fun (digits, rest) =>
        (-(Text.naturalOf digits : Int), rest)
  | '+' :: rest =>
      (readDigits rest.length rest).map fun (digits, rest) =>
        ((Text.naturalOf digits : Int), rest)
  | rest =>
      (readDigits 4 rest).map fun (digits, rest) => ((Text.naturalOf digits : Int), rest)

/-- A mark after blanks. -/
def readMark (mark : Char) (text : List Char) : Option (List Char) :=
  match Text.trimStart text with
  | c :: rest => if c = mark then some rest else none
  | [] => none

/-- A point and at least one digit, or nothing. -/
def readFraction : List Char → Option (Nat × List Char)
  | '.' :: text =>
      (readDigits 9 text).map fun (digits, rest) =>
        (Text.naturalOf digits * tenTo (9 - digits.length), rest.dropWhile Text.isDigit)
  | text => some (0, text)

def read? (text : String) : Option Timestamp := do
  let (year, text) ← readYear text.toList
  let text ← readMark '-' text
  let (month, text) ← readPart text
  let text ← readMark '-' text
  let (day, text) ← readPart text
  let text ← readMark 'T' text
  let (hour, text) ← readPart text
  let text ← readMark ':' text
  let (minute, text) ← readPart text
  let text ← readMark ':' text
  let (second, text) ← readPart text
  let (nanosecond, text) ← readFraction text
  if Text.trimStart text = [] then
    if second = 60 then of? year month day hour minute 59 (nanosecond + 1000000000)
    else of? year month day hour minute second nanosecond
  else none

end RecordSql.Timestamp
