import RecordSql.ResultSet
import RecordSql.Statement.Plan
import RecordSql.Store.Command

/-!
Carrying out a plan. A plan makes one request at a time and goes on with its
answer. Only an update needs two: it reads the record and writes it back with
its fields assigned. A record that is not there is started from its key alone.
-/

namespace RecordSql

inductive Call where
  | insert (collection : String) (values : Record)
  | select (collection : String)
  | read (collection : String) (key : Key) (updates : Record)
  | write (collection : String) (merged : Record)
  | delete (collection : String) (key : Key)

/-- What is left of a plan: its next request, or how it ended. -/
inductive Progress where
  | next (call : Call)
  | done (outcome : Except Failure ResultSet)

def Plan.call : Plan → Call
  | .insert collection values => .insert collection values
  | .select collection => .select collection
  | .update collection key updates => .read collection key updates
  | .delete collection key => .delete collection key

namespace Call

def kind : Call → StatementKind
  | .insert _ _ => .insert
  | .select _ => .select
  | .read _ _ _ => .update
  | .write _ _ => .update
  | .delete _ _ => .delete

def collection : Call → String
  | .insert collection _ => collection
  | .select collection => collection
  | .read collection _ _ => collection
  | .write collection _ => collection
  | .delete collection _ => collection

def request : Call → Request
  | .insert _ values => .add values
  | .select _ => .getAll
  | .read _ key _ => .get key
  | .write _ merged => .put merged
  | .delete _ key => .delete key

/-- The requests from this one to the end. -/
def requests : Call → Nat
  | .read _ _ _ => 2
  | _ => 1

/-- What an update writes back. -/
def merged (key : Key) (updates : Record) (found? : Option Record) : Record :=
  (found?.getD (Record.ofKey key)).merge updates

def answered : (call : Call) → call.request.Answer → Progress
  | .insert _ _, key => .done (.ok (.inserted key))
  | .select _, rows => .done (.ok (.ofRows rows))
  | .read collection key updates, found? => .next (.write collection (merged key updates found?))
  | .write _ _, _ => .done (.ok (.affected 1))
  | .delete _ _, _ => .done (.ok (.affected 1))

/-- How a plan goes on after the reply to its request. -/
def resume (call : Call) : Except StoreError call.request.Answer → Progress
  | .ok answer => call.answered answer
  | .error cause => .done (.error (.storage call.kind cause))

end Call

namespace Progress

/-- The requests that are left at most. -/
def requests : Progress → Nat
  | .next call => call.requests
  | .done _ => 0

@[simp]
theorem requests_next (call : Call) : (next call).requests = call.requests := rfl

@[simp]
theorem requests_done (outcome : Except Failure ResultSet) : (done outcome).requests = 0 := rfl

end Progress

theorem Call.requests_resume_lt (call : Call)
    (reply : Except StoreError call.request.Answer) :
    (call.resume reply).requests < call.requests := by
  cases reply with
  | error cause => cases call <;> simp [resume, Progress.requests, requests]
  | ok answer => cases call <;> simp [resume, answered, Progress.requests, requests]

theorem Call.requests_le_two (call : Call) : call.requests ≤ 2 := by
  cases call <;> simp [requests]

end RecordSql
