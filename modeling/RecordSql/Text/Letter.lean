/-!
Letters compared without regard to case. Two letters outside ASCII belong to
an ASCII letter's case class: the long s (U+017F) to `s`, the kelvin sign
(U+212A) to `k`. Both therefore also count as letters of a name.
-/

namespace RecordSql.Text

def longS : Char := '\u017f'

def kelvinSign : Char := '\u212a'

/-- For any `capital` that is no letter this is equality. -/
def isCaseOf (capital c : Char) : Bool :=
  c.toUpper == capital || (capital == 'S' && c == longS) ||
    (capital == 'K' && c == kelvinSign)

def isNameChar (c : Char) : Bool :=
  c.isAlphanum || c == '_' || c == longS || c == kelvinSign

/-- The word is written in capitals. -/
def dropWord? : List Char → List Char → Option (List Char)
  | [], text => some text
  | capital :: word, c :: text =>
      if isCaseOf capital c then dropWord? word text else none
  | _ :: _, [] => none

def takeName (text : List Char) : List Char × List Char :=
  (text.takeWhile isNameChar, text.dropWhile isNameChar)

end RecordSql.Text
