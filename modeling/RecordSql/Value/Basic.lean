import RecordSql.Json.Basic
import RecordSql.Timestamp.Basic

/-!
The values that statements carry and records hold.
-/

namespace RecordSql

inductive Value where
  | integer (number : Int64)
  | real (number : Binary64)
  | bool (value : Bool)
  | timestamp (time : Timestamp)
  | text (text : String)
  | null
  | blob (bytes : List UInt8)
  | json (value : Json)

namespace Value

instance : Inhabited Value := ⟨.null⟩

def isNull : Value → Bool
  | .null => true
  | _ => false

def integer? : Value → Option Int64
  | .integer number => some number
  | _ => none

end Value

end RecordSql
