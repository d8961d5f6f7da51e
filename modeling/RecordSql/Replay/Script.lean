import RecordSql.Json.Shape
import RecordSql.Transaction.Program

/-!
Scripts: a database and the transactions to run on it, in order. A script is
written in JSON; its version and its transactions may be left out, and so may
the parameters of a statement.
-/

namespace RecordSql

structure ScriptStatement where
  sql : String
  params : List Json

/-- The statements that a transaction's setup issues. -/
abbrev ScriptTransaction := List ScriptStatement

structure Script where
  database : String
  version : String
  transactions : List ScriptTransaction

namespace ScriptStatement

structure Draft where
  sql? : Option String
  params? : Option (List Json)

def members : List (Json.Member Draft) :=
  [.of "sql" .text Draft.sql? fun draft sql => { draft with sql? := some sql },
    .of "params" (.list .anything) Draft.params? fun draft params =>
      { draft with params? := some params }]

def shape : Json.Shape ScriptStatement :=
  .ofMembers members ⟨none, none⟩ fun draft =>
    draft.sql?.map fun sql => { sql, params := draft.params?.getD [] }

/-- The statement as it is issued: both outcomes are heard, and nothing
follows. -/
def statement (scripted : ScriptStatement) : Statement where
  sql := scripted.sql
  params := scripted.params.map Value.ofJson
  onSuccess := some []
  onFailure := some []

end ScriptStatement

namespace ScriptTransaction

structure Draft where
  statements? : Option (List ScriptStatement)

def members : List (Json.Member Draft) :=
  [.of "statements" (.list ScriptStatement.shape) Draft.statements? fun _ statements =>
    ⟨some statements⟩]

def shape : Json.Shape ScriptTransaction := .ofMembers members ⟨none⟩ Draft.statements?

end ScriptTransaction

namespace Script

structure Draft where
  database? : Option String
  version? : Option String
  transactions? : Option (List ScriptTransaction)

def members : List (Json.Member Draft) :=
  [.of "database" .text Draft.database? fun draft database =>
      { draft with database? := some database },
    .of "version" .text Draft.version? fun draft version =>
      { draft with version? := some version },
    .of "transactions" (.list ScriptTransaction.shape) Draft.transactions?
      fun draft transactions => { draft with transactions? := some transactions }]

def shape : Json.Shape Script :=
  .ofMembers members ⟨none, none, none⟩ fun draft =>
    draft.database?.map fun database =>
      { database
        version := draft.version?.getD ""
        transactions := draft.transactions?.getD [] }

def read? (text : String) : Option Script := shape.read? text

end Script

end RecordSql
