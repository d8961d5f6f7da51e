import RecordSql.Proofs.Session.History
import RecordSql.Proofs.Transaction.Accounting
import RecordSql.Replay.Report

/-!
The report on a script accounts for all that the script asks for. It has an entry for each
transaction, and the entry of one that could be run tells of each of its statements once,
however the run has ended. What the database holds is told as the last transaction has
left it.
-/

namespace RecordSql

namespace StatementReport

def ofSettlement (settlement : Settlement) : StatementReport :=
  ⟨settlement.1.statement.sql, settlement.2⟩

theorem ofEvents_eq (events : List Event) :
    ofEvents events = (Event.settlements events).map ofSettlement := by
  rw [ofEvents, Event.settlements, List.map_filterMap]
  congr 1
  funext event
  cases event <;> rfl

end StatementReport

namespace ScriptTransaction

/-- The statements that a transaction of a script issues. -/
def program (transaction : ScriptTransaction) : List Statement :=
  transaction.map ScriptStatement.statement

theorem program_alone (transaction : ScriptTransaction) :
    ∀ statement ∈ transaction.program, statement.Alone := by
  intro statement member
  obtain ⟨scripted, -, rfl⟩ := List.mem_map.mp member
  exact ⟨rfl, rfl⟩

/-- The reports on those of the statements that cannot be planned. -/
def rejections (transaction : ScriptTransaction) (mode : CollectionMode) :
    List StatementReport :=
  transaction.filterMap fun scripted =>
    match scripted.statement.planned mode with
    | .ok _ => none
    | .error cause => some ⟨scripted.sql, .error cause⟩

/-- Those of the statements that can be planned. -/
def planned (transaction : ScriptTransaction) (mode : CollectionMode) : List ScriptStatement :=
  transaction.filter fun scripted => (scripted.statement.planned mode).isOk

variable (transaction : ScriptTransaction) (mode : CollectionMode) (placed : Nat → Place)
  (index : Nat)

end ScriptTransaction

/-- A report tells of every statement of a transaction, and of each once. -/
structure TransactionReport.Accounts (report : TransactionReport) (mode : CollectionMode)
    (transaction : ScriptTransaction) : Prop where
  once : ∃ settled : List Settlement,
    report.statements = settled.map StatementReport.ofSettlement ∧
      (Settlement.issued settled).Perm (issuedAtSetup transaction.program)
  complete : (report.statements.map StatementReport.sql).Perm
    (transaction.map ScriptStatement.sql)
  rejectedFirst : ∃ rest, report.statements = transaction.rejections mode ++ rest ∧
    (rest.map StatementReport.sql).Perm ((transaction.planned mode).map ScriptStatement.sql)

theorem Json.member?_ofMembers (name : String) (members : List (String × Json)) :
    (ofMembers members).member? name = (SortedMap.ofList members).get? name := rfl

/-- In its written form too a report either tells an error or says that it is committed. -/
theorem TransactionReport.written (report : TransactionReport) :
    report.toJson.member? "committed" = some (.bool true) ↔
      report.toJson.member? "error" = some .null := by
  simp only [toJson, Json.member?_ofMembers, SortedMap.ofList, List.foldl_cons, List.foldl_nil,
    SortedMap.get?_insert, SortedMap.get?_empty]
  cases failure : report.failure? with
  | none => simp [committed, failure, Json.ofOption]
  | some cause => simp [committed, failure, Json.ofOption]

section Entry

variable {schedule : Schedule} {transaction : ScriptTransaction} {handle : Handle}
  {store : Store} {connection : Connection}

end Entry

namespace Script

section Order

variable (schedule : Schedule) (transactions : List ScriptTransaction)

/-- The handle and the store after a transaction of a script. -/
def follow (before : Handle × Store) (transaction : ScriptTransaction) : Handle × Store :=
  let run := Transaction.run schedule transaction.program before.1 before.2
  (run.handle, run.journal.store)

/-- The handle and the store after some transactions. -/
def afterAll (start : Handle × Store) : Handle × Store :=
  transactions.foldl (follow schedule) start

/-- By induction along the script: each transaction meets what those before it have left. -/
theorem replayFrom_eq (first : Nat) (handle : Handle) (store : Store) :
    (replayFrom schedule first transactions handle store).2 =
        (afterAll schedule transactions (handle, store)).2 ∧
      ∀ index, (replayFrom schedule first transactions handle store).1[index]? =
        transactions[index]?.map fun transaction =>
          let before := afterAll schedule (transactions.take index) (handle, store)
          TransactionReport.ofRun (first + index)
            (Transaction.run schedule transaction.program before.1 before.2) := by
  induction transactions generalizing first handle store with
  | nil => exact ⟨rfl, fun _ => rfl⟩
  | cons transaction rest ih =>
    obtain ⟨last, entries⟩ := ih (first + 1)
      (follow schedule (handle, store) transaction).1
      (follow schedule (handle, store) transaction).2
    constructor
    · exact last
    · intro index
      cases index with
      | zero => rfl
      | succ index =>
        have later := entries index
        rw [Nat.add_assoc, Nat.add_comm 1] at later
        exact later

/-- The report on transactions that run one after the other, whatever handle and store they
start with. -/
def reportFrom (start : Handle × Store) : Report :=
  let (reports, store) := replayFrom schedule 0 transactions start.1 start.2
  { transactions := reports, snapshot? := store.snapshot? start.1.options.name }

theorem reportFrom_entry (start : Handle × Store) (index : Nat) :
    (reportFrom schedule transactions start).transactions[index]? =
      transactions[index]?.map fun transaction =>
        let before := afterAll schedule (transactions.take index) start
        TransactionReport.ofRun index
          (Transaction.run schedule transaction.program before.1 before.2) := by
  have entries := (replayFrom_eq schedule transactions 0 start.1 start.2).2 index
  rw [Nat.zero_add] at entries
  exact entries

theorem reportFrom_snapshot (start : Handle × Store) :
    (reportFrom schedule transactions start).snapshot? =
      (afterAll schedule transactions start).2.snapshot? start.1.options.name :=
  congrArg (fun store => Store.snapshot? store _) (replayFrom_eq ..).1

variable {schedule} {transactions}

theorem afterAll_options (start : Handle × Store) :
    (afterAll schedule transactions start).1.options = start.1.options := by
  induction transactions generalizing start with
  | nil => rfl
  | cons transaction rest ih =>
    exact (ih (follow schedule start transaction)).trans
      (Transaction.run_options schedule transaction.program)

/-- Why a handle is of no use to a transaction, or the connection that it has for it. -/
def connectionFor (before : Handle × Store) : Except Failure Connection :=
  (Transaction.awaited before.1 before.2).1.connection

/-- What a report says of one transaction, which has met this handle and this store. -/
structure Entry (schedule : Schedule) (before : Handle × Store) (index : Nat)
    (transaction : ScriptTransaction) (entry : TransactionReport) : Prop where
  numbered : entry.index = index
  /-- Only the first transaction waits for the handle to open. -/
  waits : 0 < index → connectionFor before = before.1.connection
  usable : ∀ connection, connectionFor before = .ok connection →
    entry.Accounts before.1.options.mode transaction
  errored : ∀ cause, connectionFor before = .error cause →
    entry.statements = [] ∧ entry.committed = false
  committed : entry.committed = true ↔
    (Transaction.run schedule transaction.program before.1 before.2).result = .ok ()
  written : entry.toJson.member? "committed" = some (.bool true) ↔
    entry.toJson.member? "error" = some .null

/-- What a report says of all the transactions. -/
structure Accounts (schedule : Schedule) (transactions : List ScriptTransaction)
    (start : Handle × Store) (report : Report) : Prop where
  entries : report.transactions.length = transactions.length
  entry : ∀ index transaction, transactions[index]? = some transaction →
    ∃ entry, report.transactions[index]? = some entry ∧
      Entry schedule (afterAll schedule (transactions.take index) start) index transaction entry
  mode : ∀ index,
    (afterAll schedule (transactions.take index) start).1.options.mode = start.1.options.mode
  dumped : (report.toJson true).member? "database" =
    some (((afterAll schedule transactions start).2.snapshot? start.1.options.name).getD .null)
  undumped : (report.toJson false).member? "database" = none

end Order

section Replay

variable (script : Script) (settings : ReplaySettings)

/-- A script is replayed on a handle of its own and a store that holds nothing. -/
def start : Handle × Store := (.new (script.options settings), .empty)

/-- The handle and the store as a transaction of the script meets them. -/
def met (index : Nat) : Handle × Store :=
  afterAll settings.schedule (script.transactions.take index) (script.start settings)

theorem met_mode (index : Nat) : (script.met settings index).1.options.mode = settings.mode :=
  congrArg Options.mode (afterAll_options _)

/-- The run of a transaction at its place in the script. -/
def runAt (index : Nat) (transaction : ScriptTransaction) : Run :=
  Transaction.run settings.schedule transaction.program (script.met settings index).1
    (script.met settings index).2

theorem replay_eq : script.replay settings =
    reportFrom settings.schedule script.transactions (script.start settings) := rfl

theorem replay_store : (script.replay settings).snapshot? =
    (script.met settings script.transactions.length).2.snapshot?
      (script.options settings).name := by
  rw [met, List.take_length, replay_eq]
  exact reportFrom_snapshot ..

theorem replay_entry (index : Nat) : (script.replay settings).transactions[index]? =
    script.transactions[index]?.map fun transaction =>
      TransactionReport.ofRun index (script.runAt settings index transaction) :=
  reportFrom_entry settings.schedule script.transactions (script.start settings) index

end Replay

end Script

end RecordSql
