import RecordSql.Replay.Script
import RecordSql.Transaction.Run

/-!
Replaying a script and reporting on it. The transactions run one after the
other on one handle of a fresh store. Each is reported with its failure, if it
had one, and its statements in the order in which they settled.
-/

namespace RecordSql

/-- How a script is run; a name or a version given here replaces the script's. -/
structure ReplaySettings where
  schedule : Schedule
  mode : CollectionMode
  database? : Option String
  version? : Option String

structure StatementReport where
  sql : String
  outcome : Outcome

structure TransactionReport where
  index : Nat
  failure? : Option Failure
  statements : List StatementReport

structure Report where
  transactions : List TransactionReport
  /-- What the database holds at last, if there is one. -/
  snapshot? : Option Json

namespace StatementReport

def outcomeJson : Outcome → Json
  | .ok result => result.toJson
  | .error cause => .ofMembers [("error", .string cause.message)]

def toJson (report : StatementReport) : Json :=
  .ofMembers [("sql", .string report.sql), ("outcome", outcomeJson report.outcome)]

/-- The settlements among events. -/
def ofEvents (events : List Event) : List StatementReport :=
  events.filterMap fun
    | .settled issued outcome => some ⟨issued.statement.sql, outcome⟩
    | _ => none

end StatementReport

namespace TransactionReport

def committed (report : TransactionReport) : Bool := report.failure?.isNone

def toJson (report : TransactionReport) : Json :=
  .ofMembers
    [("index", .ofNat report.index), ("committed", .bool report.committed),
      ("error", .ofOption (fun cause => .string cause.message) report.failure?),
      ("statements", .array (report.statements.map StatementReport.toJson))]

def failureIn : Except Failure Unit → Option Failure
  | .ok _ => none
  | .error cause => some cause

def ofRun (index : Nat) (run : Run) : TransactionReport where
  index := index
  failure? := failureIn run.result
  statements := StatementReport.ofEvents run.journal.events

end TransactionReport

namespace Report

def transactionsJson (report : Report) : Json :=
  .array (report.transactions.map TransactionReport.toJson)

/-- The report, with what the database holds if that is asked for. -/
def toJson (report : Report) (withSnapshot : Bool) : Json :=
  .ofMembers (("transactions", report.transactionsJson) ::
    if withSnapshot then [("database", report.snapshot?.getD .null)] else [])

end Report

namespace Script

def options (script : Script) (settings : ReplaySettings) : Options :=
  let name := settings.database?.getD script.database
  { name
    version := settings.version?.getD script.version
    displayName := name
    estimatedSize := 0
    mode := settings.mode
    collections := [] }

/-- Runs transactions from an index on. -/
def replayFrom (schedule : Schedule) :
    Nat → List ScriptTransaction → Handle → Store → List TransactionReport × Store
  | _, [], _, store => ([], store)
  | index, transaction :: rest, handle, store =>
      let run := Transaction.run schedule (transaction.map ScriptStatement.statement) handle store
      let (reports, store) :=
        replayFrom schedule (index + 1) rest run.handle run.journal.store
      (TransactionReport.ofRun index run :: reports, store)

def replay (script : Script) (settings : ReplaySettings) : Report :=
  let options := script.options settings
  let (transactions, store) :=
    replayFrom settings.schedule 0 script.transactions (.new options) .empty
  { transactions, snapshot? := store.snapshot? options.name }

end Script

end RecordSql
