import RecordSql.Json.Basic
import RecordSql.Binary64.Layout
import RecordSql.Text.Quoted

/-!
Writing JSON: on one line, on lines indented by two spaces, and as messages
show it, with each value under its kind.
-/

namespace RecordSql

/-- JSON numbers are written positionally from `0.00001` up to `10 ^ 16`, with a
sign before every other exponent; ties go to the even digit. -/
def Binary64.jsonLayout : Binary64.Layout := ⟨.toEven, -4, 16, "+"⟩

def JsonNumber.render : JsonNumber → String
  | .integer number _ _ => Text.signedDecimal number
  | .real number _ => Binary64.jsonLayout.write number

namespace Json

def hexDigit (number : Nat) : Char := Nat.digitChar number

def escape (c : Char) : List Char :=
  match c with
  | '"' => ['\\', '"']
  | '\\' => ['\\', '\\']
  | '\x08' => ['\\', 'b']
  | '\x0c' => ['\\', 'f']
  | '\n' => ['\\', 'n']
  | '\r' => ['\\', 'r']
  | '\t' => ['\\', 't']
  | c =>
      if c.toNat < 0x20 then
        ['\\', 'u', '0', '0', hexDigit (c.toNat / 16), hexDigit (c.toNat % 16)]
      else [c]

def quote (text : String) : String :=
  String.ofList (['"'] ++ text.toList.flatMap escape ++ ['"'])

mutual

def render : Json → String
  | .null => "null"
  | .bool true => "true"
  | .bool false => "false"
  | .number value => value.render
  | .string text => quote text
  | .array [] => "[]"
  | .array (first :: rest) => "[" ++ render first ++ renderItems rest ++ "]"
  | .object [] => "\x7b\x7d"
  | .object ((name, value) :: rest) =>
      "\x7b" ++ quote name ++ ":" ++ render value ++ renderMembers rest ++ "\x7d"

def renderItems : List Json → String
  | [] => ""
  | item :: rest => "," ++ render item ++ renderItems rest

def renderMembers : List (String × Json) → String
  | [] => ""
  | (name, value) :: rest => "," ++ quote name ++ ":" ++ render value ++ renderMembers rest

end

/-- A new line with its indentation. -/
def newLine (depth : Nat) : String := String.ofList ('\n' :: List.replicate (2 * depth) ' ')

mutual

def renderIndented (depth : Nat) : Json → String
  | .array (first :: rest) =>
      "[" ++ newLine (depth + 1) ++ renderIndented (depth + 1) first ++
        renderIndentedItems (depth + 1) rest ++ newLine depth ++ "]"
  | .object ((name, value) :: rest) =>
      "\x7b" ++ newLine (depth + 1) ++ quote name ++ ": " ++
        renderIndented (depth + 1) value ++ renderIndentedMembers (depth + 1) rest ++
        newLine depth ++ "\x7d"
  | .array [] => "[]"
  | .object [] => "\x7b\x7d"
  | .null => "null"
  | .bool true => "true"
  | .bool false => "false"
  | .number value => value.render
  | .string text => quote text

def renderIndentedItems (depth : Nat) : List Json → String
  | [] => ""
  | item :: rest =>
      "," ++ newLine depth ++ renderIndented depth item ++ renderIndentedItems depth rest

def renderIndentedMembers (depth : Nat) : List (String × Json) → String
  | [] => ""
  | (name, value) :: rest =>
      "," ++ newLine depth ++ quote name ++ ": " ++ renderIndented depth value ++
        renderIndentedMembers depth rest

end

mutual

/-- A value as messages show it. -/
def inspect : Json → String
  | .null => "Null"
  | .bool true => "Bool(true)"
  | .bool false => "Bool(false)"
  | .number value => "Number(" ++ value.render ++ ")"
  | .string text => "String(" ++ Text.quoted text ++ ")"
  | .array [] => "Array []"
  | .array (first :: rest) => "Array [" ++ inspect first ++ inspectItems rest ++ "]"
  | .object [] => "Object \x7b\x7d"
  | .object ((name, value) :: rest) =>
      "Object \x7b" ++ Text.quoted name ++ ": " ++ inspect value ++
        inspectMembers rest ++ "\x7d"

def inspectItems : List Json → String
  | [] => ""
  | item :: rest => ", " ++ inspect item ++ inspectItems rest

def inspectMembers : List (String × Json) → String
  | [] => ""
  | (name, value) :: rest =>
      ", " ++ Text.quoted name ++ ": " ++ inspect value ++ inspectMembers rest

end

end Json

end RecordSql
