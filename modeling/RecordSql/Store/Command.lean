import RecordSql.Store.Basic

/-!
Commands to a store and its replies. A history of a store is a list of commands
carried out one after the other.
-/

namespace RecordSql

inductive Command where
  | openDatabase (name : String) (version? : Option UInt32)
      (upgrade : UInt32 → UInt32 → Upgrade)
  | close (connection : Nat)
  | beginTransaction (connection : Nat) (scope : List String) (mode : AccessMode)
  | request (transaction : Nat) (collection : String) (asked : Request)
  | commit (transaction : Nat)
  | abort (transaction : Nat)
  | inject (operation : Operation)
  | snapshot (name : String)

namespace Command

abbrev Reply : Command → Type
  | .openDatabase _ _ _ => Opening
  | .close _ => Unit
  | .beginTransaction _ _ _ => Except StoreError Nat
  | .request _ _ asked => Except StoreError asked.Answer
  | .commit _ => Except StoreError Unit
  | .abort _ => Unit
  | .inject _ => Unit
  | .snapshot _ => Option Json

def errorIn {Answer : Type} : Except StoreError Answer → Option StoreError
  | .error cause => some cause
  | .ok _ => none

/-- The error in a reply, if it reports one. -/
def error? : (command : Command) → command.Reply → Option StoreError
  | .openDatabase _ _ _, opening => errorIn opening.result
  | .close _, _ => none
  | .beginTransaction _ _ _, reply => errorIn reply
  | .request _ _ _, reply => errorIn reply
  | .commit _, reply => errorIn reply
  | .abort _, _ => none
  | .inject _, _ => none
  | .snapshot _, _ => none

end Command

/-- A command with the reply it got. -/
structure Exchange where
  command : Command
  reply : command.Reply

namespace Store

def step (store : Store) : (command : Command) → command.Reply × Store
  | .openDatabase name version? upgrade => store.openDatabase name version? upgrade
  | .close connection => ((), store.close connection)
  | .beginTransaction connection scope mode => store.beginTransaction connection scope mode
  | .request transaction collection asked => store.request transaction collection asked
  | .commit transaction => store.commit transaction
  | .abort transaction => ((), store.abort transaction)
  | .inject operation => ((), store.inject operation)
  | .snapshot name => (store.snapshot? name, store)

/-- The store after a history. -/
def run (store : Store) : List Command → Store
  | [] => store
  | command :: rest => (store.step command).2.run rest

/-- The exchanges of a history, in order. -/
def exchanges (store : Store) : List Command → List Exchange
  | [] => []
  | command :: rest =>
      ⟨command, (store.step command).1⟩ :: (store.step command).2.exchanges rest

end Store

end RecordSql
