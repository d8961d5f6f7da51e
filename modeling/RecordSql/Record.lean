import RecordSql.SortedMap
import RecordSql.Value.Json

/-!
Records: values by field name. A record's key in its collection is the whole
number in its `id` field. A record is reported in one form and stored in another.
-/

namespace RecordSql

abbrev Record := SortedMap String Value

abbrev Key := Int64

namespace Record

def keyField : String := "id"

def id? (record : Record) : Option Key := (record.get? keyField).bind Value.integer?

def ofKey (key : Key) : Record := SortedMap.empty.insert keyField (.integer key)

def toJson (record : Record) : Json :=
  .object (record.entries.map fun (field, value) => (field, value.toJson))

def store (record : Record) : Json :=
  .object (record.entries.map fun (field, value) => (field, value.store))

def load? : Json → Option Record
  | .object members =>
      some (.ofList (members.map fun (field, value) => (field, Value.load value)))
  | _ => none

end Record

end RecordSql
