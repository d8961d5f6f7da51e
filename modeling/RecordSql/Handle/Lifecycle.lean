import RecordSql.Failure

/-!
The lifecycle of a database handle: opening, perhaps upgrading, then ready with
a connection or errored for good. A ready handle opens again when its schema
has to grow. An event that does not fit the state is ignored.
-/

namespace RecordSql

structure Connection where
  identifier : Nat
  database : String
  version : UInt32
  collections : List String

inductive HandleState where
  | opening
  | upgrading (oldVersion newVersion : UInt32)
  | ready (connection : Connection)
  | errored (cause : Failure)

inductive HandleEvent where
  | upgradeNeeded (oldVersion newVersion : UInt32)
  | opened (connection : Connection)
  | failed (cause : Failure)
  /-- The connection was closed so that collections can be created. -/
  | reopening

namespace HandleState

def after : HandleState → HandleEvent → HandleState
  | .errored cause, _ => .errored cause
  | _, .failed cause => .errored cause
  | .opening, .upgradeNeeded oldVersion newVersion => .upgrading oldVersion newVersion
  | .upgrading _ _, .upgradeNeeded oldVersion newVersion => .upgrading oldVersion newVersion
  | .opening, .opened connection => .ready connection
  | .upgrading _ _, .opened connection => .ready connection
  | .ready _, .reopening => .opening
  | state, _ => state

/-- The state after a history of events. -/
def afterAll (state : HandleState) (events : List HandleEvent) : HandleState :=
  events.foldl after state

def isSettled : HandleState → Bool
  | .ready _ | .errored _ => true
  | .opening | .upgrading _ _ => false

end HandleState

/-- The two versions of an upgrade under the name of a state or an event. -/
def inspectUpgrade (name : String) (oldVersion newVersion : UInt32) : String :=
  name ++ " \x7b old_version: " ++ Text.decimal oldVersion.toNat ++ ", new_version: " ++
    Text.decimal newVersion.toNat ++ " \x7d"

def HandleState.inspect : HandleState → String
  | .opening => "Opening"
  | .upgrading oldVersion newVersion => inspectUpgrade "Upgrading" oldVersion newVersion
  | .ready connection =>
      "Ready \x7b name: " ++ Text.quoted connection.database ++ ", version: " ++
        Text.decimal connection.version.toNat ++ " \x7d"
  | .errored cause => "Errored(" ++ cause.inspect ++ ")"

def HandleEvent.inspect : HandleEvent → String
  | .upgradeNeeded oldVersion newVersion =>
      inspectUpgrade "UpgradeNeeded" oldVersion newVersion
  | .opened connection => "Opened(" ++ Text.decimal connection.version.toNat ++ ")"
  | .failed cause => "Failed(" ++ cause.inspect ++ ")"
  | .reopening => "Reopening"

end RecordSql
