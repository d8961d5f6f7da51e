import RecordSql.Json.Printer
import RecordSql.Value.Basic

/-!
Values as messages show them: each under its kind.
-/

namespace RecordSql.Value

/-- Items with commas between them. -/
def listed (items : List String) : String := ", ".intercalate items

def inspect : Value → String
  | .integer number => "Int(" ++ Text.signedDecimal number.toInt ++ ")"
  | .real number => "Float(" ++ number.inspect ++ ")"
  | .bool true => "Bool(true)"
  | .bool false => "Bool(false)"
  | .timestamp time => "Timestamp(" ++ time.stored ++ ")"
  | .text content => "Text(" ++ Text.quoted content ++ ")"
  | .null => "Null"
  | .blob bytes =>
      "Blob([" ++ listed (bytes.map fun byte => Text.decimal byte.toNat) ++ "])"
  | .json value => "JSON(" ++ value.inspect ++ ")"

end RecordSql.Value
