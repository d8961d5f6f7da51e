/-!
The operations of a store that can be made to fail: opening a database, the
five requests on records, and committing.
-/

namespace RecordSql

inductive RequestKind where
  | add
  | getAll
  | get
  | put
  | delete
deriving DecidableEq

namespace RequestKind

def isWrite : RequestKind → Bool
  | .add | .put | .delete => true
  | .getAll | .get => false

def inspect : RequestKind → String
  | .add => "Add"
  | .getAll => "GetAll"
  | .get => "Get"
  | .put => "Put"
  | .delete => "Delete"

end RequestKind

inductive Operation where
  | openDatabase
  | request (kind : RequestKind)
  | commit
deriving DecidableEq

def Operation.inspect : Operation → String
  | .openDatabase => "Open"
  | .request kind => "Request(" ++ kind.inspect ++ ")"
  | .commit => "Commit"

end RecordSql
