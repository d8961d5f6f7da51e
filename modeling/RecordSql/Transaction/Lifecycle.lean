import RecordSql.Failure

/-!
The lifecycle of a transaction: pending until its setup has returned, then
active while statements may be issued, at last committed or failed. An event
that does not fit the state is ignored.
-/

namespace RecordSql

inductive TransactionState where
  | pending
  /-- So many of the issued statements have not settled. -/
  | active (inFlight : Nat)
  | committed
  | failed (cause : Failure)

inductive TransactionEvent where
  | setupReturned
  | statementIssued
  | statementSettled
  | completed
  | errored (cause : Failure)

namespace TransactionState

/-- The state that an event leads to, where the event fits. -/
def after? : TransactionState → TransactionEvent → Option TransactionState
  | .pending, .setupReturned => some (.active 0)
  | .active inFlight, .statementIssued => some (.active (inFlight + 1))
  | .active (inFlight + 1), .statementSettled => some (.active inFlight)
  | .active 0, .completed => some .committed
  | .pending, .errored cause => some (.failed cause)
  | .active _, .errored cause => some (.failed cause)
  | _, _ => none

def after (state : TransactionState) (event : TransactionEvent) : TransactionState :=
  (state.after? event).getD state

def afterAll (state : TransactionState) (events : List TransactionEvent) : TransactionState :=
  events.foldl after state

end TransactionState

end RecordSql
