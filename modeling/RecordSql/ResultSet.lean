import RecordSql.Record

/-!
What a settled statement reports: the key of an inserted record, the number of
records said to be changed, or the records that were read.
-/

namespace RecordSql

structure ResultSet where
  insertId? : Option Key
  rowsAffected? : Option Nat
  rows : List Record

namespace ResultSet

def empty : ResultSet := ⟨none, none, []⟩

instance : Inhabited ResultSet := ⟨empty⟩

def inserted (key : Key) : ResultSet := { empty with insertId? := some key }

def affected (count : Nat) : ResultSet := { empty with rowsAffected? := some count }

def ofRows (rows : List Record) : ResultSet := { empty with rows := rows }

/-- The reported form. -/
def toJson (result : ResultSet) : Json :=
  .ofMembers
    [("insertId", .ofOption .ofInt64 result.insertId?),
      ("rowsAffected", .ofOption .ofNat result.rowsAffected?),
      ("rows", .array (result.rows.map Record.toJson))]

end ResultSet

end RecordSql
