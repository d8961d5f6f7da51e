import RecordSql.Timestamp.Reader
import RecordSql.Value.Basic

/-!
Values and JSON. A parameter written in JSON becomes a value by its kind alone.
Two forms lead back: the reported form, which callers see, and the stored form,
which can be read again. They differ in how a timestamp is written. Reading the
stored form guesses the kind: text in the form of a timestamp is one, and a
list of bytes is a blob.
-/

namespace RecordSql.Value

/-- A parameter. A whole number beyond 64 signed bits becomes a float. -/
def ofJson : Json → Value
  | .null => .null
  | .bool value => .bool value
  | .number value =>
      match value.toInt64? with
      | some number => .integer number
      | none => .real value.toReal
  | .string content => .text content
  | .array items => .json (.array items)
  | .object members => .json (.object members)

def blobJson (bytes : List UInt8) : Json :=
  .array (bytes.map fun byte => .number (.ofUInt8 byte))

/-- The reported form. -/
def toJson : Value → Json
  | .integer number => .ofInt64 number
  | .real number => .ofReal number
  | .bool value => .bool value
  | .timestamp time => .string time.reported
  | .text content => .string content
  | .null => .null
  | .blob bytes => blobJson bytes
  | .json value => value

/-- The stored form. -/
def store : Value → Json
  | .timestamp time => .string time.stored
  | value => value.toJson

def byte? : Json → Option UInt8
  | .number (.integer number _ _) =>
      if 0 ≤ number ∧ number ≤ 255 then some (UInt8.ofNat number.toNat) else none
  | _ => none

/-- Reads the stored form. -/
def load : Json → Value
  | .null => .null
  | .bool value => .bool value
  | .number value =>
      match value.toInt64? with
      | some number => .integer number
      | none => .real value.toReal
  | .string content =>
      match Timestamp.read? content with
      | some time => .timestamp time
      | none => .text content
  | .array items =>
      match items.mapM byte? with
      | some bytes => .blob bytes
      | none => .json (.array items)
  | .object members => .json (.object members)

end RecordSql.Value
