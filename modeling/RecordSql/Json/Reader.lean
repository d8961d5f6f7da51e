import RecordSql.Json.Numeral

/-!
Reading JSON text. A value is read with care or skimmed. With care, containers
nest at most 127 deep, numbers must be in range and characters outside the
first plane must be written as whole pairs. A skimmed value only has to be well
formed; it is what a reader passes over when it meets a member it does not
know.
-/

namespace RecordSql.Json

inductive Care where
  | full
  | skim
deriving DecidableEq

/-- Containers open at once number fewer than this. -/
def nestingLimit : Nat := 128

def isSpace (c : Char) : Bool := c == ' ' || c == '\n' || c == '\t' || c == '\r'

def skipSpace (text : List Char) : List Char := text.dropWhile isSpace

def dropLiteral? : List Char → List Char → Option (List Char)
  | [], text => some text
  | expected :: word, c :: text => if expected = c then dropLiteral? word text else none
  | _ :: _, [] => none

def hexValue? (c : Char) : Option Nat :=
  if Text.isDigit c then some (Text.digitValue c)
  else if 'a' ≤ c ∧ c ≤ 'f' then some (c.toNat - 'a'.toNat + 10)
  else if 'A' ≤ c ∧ c ≤ 'F' then some (c.toNat - 'A'.toNat + 10)
  else none

/-- Four hexadecimal digits. -/
def readUnit : List Char → Option (Nat × List Char)
  | a :: b :: c :: d :: rest => do
      let a ← hexValue? a
      let b ← hexValue? b
      let c ← hexValue? c
      let d ← hexValue? d
      some (((a * 16 + b) * 16 + c) * 16 + d, rest)
  | _ => none

/-- The character of an escape whose `u` has been passed: a code unit, or two
that make a pair. -/
def readEscapedUnits (care : Care) (text : List Char) : Option (Char × List Char) := do
  let (unit, rest) ← readUnit text
  if care = .skim then some (' ', rest)
  else if 0xDC00 ≤ unit ∧ unit ≤ 0xDFFF then none
  else if 0xD800 ≤ unit ∧ unit ≤ 0xDBFF then
    match rest with
    | '\\' :: 'u' :: rest => do
        let (low, rest) ← readUnit rest
        if 0xDC00 ≤ low ∧ low ≤ 0xDFFF then
          some (Char.ofNat (0x10000 + (unit - 0xD800) * 0x400 + (low - 0xDC00)), rest)
        else none
    | _ => none
  else some (Char.ofNat unit, rest)

/-- The character of an escape whose backslash has been passed. -/
def readEscape (care : Care) : List Char → Option (Char × List Char)
  | '"' :: rest => some ('"', rest)
  | '\\' :: rest => some ('\\', rest)
  | '/' :: rest => some ('/', rest)
  | 'b' :: rest => some ('\x08', rest)
  | 'f' :: rest => some ('\x0c', rest)
  | 'n' :: rest => some ('\n', rest)
  | 'r' :: rest => some ('\r', rest)
  | 't' :: rest => some ('\t', rest)
  | 'u' :: rest => readEscapedUnits care rest
  | _ => none

/-- The characters up to the closing quote, in reverse. `limit` bounds the
characters that are looked at. -/
def readQuotedUpTo (care : Care) :
    (limit : Nat) → List Char → List Char → Option (List Char × List Char)
  | 0, _, _ => none
  | _ + 1, _, [] => none
  | limit + 1, done, c :: rest =>
      if c = '"' then some (done, rest)
      else if c = '\\' then
        match readEscape care rest with
        | some (escaped, rest) => readQuotedUpTo care limit (escaped :: done) rest
        | none => none
      else if c.toNat < 0x20 then none
      else readQuotedUpTo care limit (c :: done) rest

/-- A text whose opening quote has been passed. -/
def readQuoted (care : Care) (text : List Char) : Option (String × List Char) :=
  (readQuotedUpTo care (text.length + 1) [] text).map fun (done, rest) =>
    (String.ofList done.reverse, rest)

def readNumber (care : Care) (text : List Char) : Option (Json × List Char) := do
  let (numeral, rest) ← Numeral.cut text
  match care with
  | .skim => some (.null, rest)
  | .full =>
      let number ← numeral.value?
      some (.number number, rest)

/-- The nesting that a container leaves to its contents. -/
def deeper? (care : Care) (nesting : Nat) : Option Nat :=
  match care with
  | .skim => some nesting
  | .full => if nesting ≤ 1 then none else some (nesting - 1)

/-- What follows an element: the end of the container, or the next element. -/
inductive Continuation where
  | closed (rest : List Char)
  | more (rest : List Char)

def afterElement? (closing : Char) (text : List Char) : Option Continuation :=
  match skipSpace text with
  | ',' :: rest => some (.more (skipSpace rest))
  | c :: rest => if c = closing then some (.closed rest) else none
  | [] => none

/-- The name of a member and the colon after it. -/
def readName (care : Care) : List Char → Option (String × List Char)
  | '"' :: text => do
      let (name, text) ← readQuoted care text
      match skipSpace text with
      | ':' :: text => some (name, text)
      | _ => none
  | _ => none

mutual

/-- A value at the front of a text. `limit` bounds the values that are read. -/
def readValueUpTo (care : Care) :
    (limit : Nat) → (nesting : Nat) → List Char → Option (Json × List Char)
  | 0, _, _ => none
  | limit + 1, nesting, text =>
      match skipSpace text with
      | 'n' :: rest =>
          (dropLiteral? ['u', 'l', 'l'] rest).map fun rest => (.null, rest)
      | 't' :: rest =>
          (dropLiteral? ['r', 'u', 'e'] rest).map fun rest => (.bool true, rest)
      | 'f' :: rest =>
          (dropLiteral? ['a', 'l', 's', 'e'] rest).map fun rest => (.bool false, rest)
      | '"' :: rest =>
          (readQuoted care rest).map fun (text, rest) => (.string text, rest)
      | '[' :: rest =>
          match deeper? care nesting with
          | none => none
          | some nesting =>
              match skipSpace rest with
              | ']' :: rest => some (.array [], rest)
              | rest =>
                  (readItemsUpTo care limit nesting [] rest).map fun (items, rest) =>
                    (.array items, rest)
      | '\x7b' :: rest =>
          match deeper? care nesting with
          | none => none
          | some nesting =>
              match skipSpace rest with
              | '\x7d' :: rest => some (.object [], rest)
              | rest =>
                  (readMembersUpTo care limit nesting [] rest).map fun (members, rest) =>
                    (.ofMembers members, rest)
      | text => readNumber care text

def readItemsUpTo (care : Care) : (limit : Nat) → (nesting : Nat) →
    List Json → List Char → Option (List Json × List Char)
  | 0, _, _, _ => none
  | limit + 1, nesting, done, text =>
      match readValueUpTo care limit nesting text with
      | none => none
      | some (item, rest) =>
          match afterElement? ']' rest with
          | none => none
          | some (.closed rest) => some ((item :: done).reverse, rest)
          | some (.more rest) => readItemsUpTo care limit nesting (item :: done) rest

def readMembersUpTo (care : Care) : (limit : Nat) → (nesting : Nat) →
    List (String × Json) → List Char → Option (List (String × Json) × List Char)
  | 0, _, _, _ => none
  | limit + 1, nesting, done, text =>
      match readName care text with
      | none => none
      | some (name, text) =>
          match readValueUpTo care limit nesting text with
          | none => none
          | some (value, rest) =>
              match afterElement? '\x7d' rest with
              | none => none
              | some (.closed rest) => some (((name, value) :: done).reverse, rest)
              | some (.more rest) =>
                  readMembersUpTo care limit nesting ((name, value) :: done) rest

end

/-- A value at the front of a text; every value takes at least one character. -/
def readValue (care : Care) (nesting : Nat) (text : List Char) :
    Option (Json × List Char) :=
  readValueUpTo care (2 * text.length + 1) nesting text

/-- Reads a text that is one value, with white space around it. -/
def read? (text : String) : Option Json := do
  let (value, rest) ← readValue .full nestingLimit text.toList
  if (skipSpace rest).isEmpty then some value else none

end RecordSql.Json
