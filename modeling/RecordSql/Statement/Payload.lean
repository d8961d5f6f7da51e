import RecordSql.Record
import RecordSql.Statement.Clause
import RecordSql.Text.Pieces

/-!
What a statement carries. Parameters are taken by position; the values and
placeholders written in the statement are never read. A parameter that was not
supplied is null.
-/

namespace RecordSql

/-- The key is absent where the clause is, or the last parameter is no key. -/
structure UpdatePayload where
  key? : Option Value
  updates : Record

namespace Payload

def parameter (params : List Value) (index : Nat) : Value := params[index]?.getD .null

def given? (value? : Option Value) : Option Value := value?.filter fun value => !value.isNull

def columnNames (columns : List Char) : List String :=
  (Text.pieces ',' columns).map fun piece => String.ofList (Text.trim piece)

def assignedField (piece : List Char) : String :=
  String.ofList (Text.trim ((Text.trim piece).takeWhile (· != '=')))

def assignedFields (assignments : List Char) : List String :=
  (Text.pieces ',' assignments).map assignedField

/-- Each name with its parameter; of equal names the last counts. -/
def assign (names : List String) (params : List Value) : Record :=
  .ofList (names.zipIdx.map fun (name, index) => (name, parameter params index))

/-- A key column without a parameter is left out, so that the store makes the
key. -/
def insertedFields (names : List String) (params : List Value) : Record :=
  .ofList ((names.zipIdx.filter fun (name, index) =>
      !(name == Record.keyField && params.length ≤ index)).map
    fun (name, index) => (name, parameter params index))

def ofInsert (sql : List Char) (params : List Value) : Record :=
  match insertClause? sql with
  | some clause => insertedFields (columnNames clause.columns) params
  | none => .empty

/-- The last parameter is the key, if there are more than assignments. -/
def ofUpdate (sql : List Char) (params : List Value) : UpdatePayload :=
  match updateClause? sql with
  | some clause =>
      let names := assignedFields clause.assignments
      { key? := if names.length < params.length then given? params.getLast? else none
        updates := assign names params }
  | none => { key? := none, updates := .empty }

def ofDelete (sql : List Char) (params : List Value) : Option Value :=
  match deleteClause? sql with
  | some _ => given? params.head?
  | none => none

end Payload

end RecordSql
