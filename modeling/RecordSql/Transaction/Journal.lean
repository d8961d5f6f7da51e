import RecordSql.Store.Command
import RecordSql.Transaction.Lifecycle
import RecordSql.Transaction.Program

/-!
The journal of a run: the store as the run leaves it and, in order, everything
that happened. It holds every command with its reply, every settlement and every
step of the transaction's lifecycle, so that whatever is to be known of a run is
read off its journal.
-/

namespace RecordSql

inductive Event where
  | exchanged (exchange : Exchange)
  | moved (event : TransactionEvent)
  /-- The setup of the transaction of this number runs. -/
  | setup (number : UInt64)
  | queued (place : Place)
  | settled (issued : Issued) (outcome : Outcome)
  /-- From here on statements are no longer queued. -/
  | closed
  | completed
  | failed (cause : Failure)

structure Journal where
  store : Store
  events : List Event

namespace Journal

def start (store : Store) : Journal := ⟨store, []⟩

def note (journal : Journal) (events : List Event) : Journal :=
  { journal with events := journal.events ++ events }

def send (journal : Journal) (command : Command) : command.Reply × Journal :=
  let (reply, store) := journal.store.step command
  (reply, { store, events := journal.events ++ [.exchanged ⟨command, reply⟩] })

def move (journal : Journal) (event : TransactionEvent) : Journal :=
  journal.note [.moved event]

def queue (journal : Journal) (issued : List Issued) : Journal :=
  journal.note (issued.map fun each => .queued each.place)

def settle (journal : Journal) (issued : Issued) (outcome : Outcome) : Journal :=
  journal.note [.settled issued outcome]

end Journal

def Event.moves (events : List Event) : List TransactionEvent :=
  events.filterMap fun
    | .moved event => some event
    | _ => none

def Event.state (events : List Event) : TransactionState :=
  TransactionState.pending.afterAll (moves events)

/-- A transaction's callbacks, by which of them are set. -/
structure TransactionCallbacks where
  success : Bool
  failure : Bool

def TransactionCallbacks.inspect (callbacks : TransactionCallbacks) : String :=
  inspectHolder "TransactionCallbacks"
    [("error", callbacks.failure), ("success", callbacks.success)]

end RecordSql
