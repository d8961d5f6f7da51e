import RecordSql.Record
import RecordSql.Store.Operation
import RecordSql.Value.Inspect

/-!
Why an operation of a store failed, and how each reason is named and worded.
-/

namespace RecordSql

inductive ErrorKind where
  | constraint
  | notFound
  | data
  | version
  | invalidState
  | transactionInactive
  | readOnly
  | invalidAccess
  | abort
  | unknown
deriving DecidableEq

namespace ErrorKind

def inspect : ErrorKind → String
  | .constraint => "Constraint"
  | .notFound => "NotFound"
  | .data => "Data"
  | .version => "Version"
  | .invalidState => "InvalidState"
  | .transactionInactive => "TransactionInactive"
  | .readOnly => "ReadOnly"
  | .invalidAccess => "InvalidAccess"
  | .abort => "Abort"
  | .unknown => "Unknown"

def name (kind : ErrorKind) : String := kind.inspect ++ "Error"

def all : List ErrorKind :=
  [.constraint, .notFound, .data, .version, .invalidState, .transactionInactive,
    .readOnly, .invalidAccess, .abort, .unknown]

def ofName? (name : String) : Option ErrorKind := all.find? fun kind => kind.name == name

end ErrorKind

inductive StoreError where
  | injected (operation : Operation)
  | versionNotPositive
  | versionOutdated (requested existing : UInt32)
  | upgradeAborted (target : UInt32) (cause : StoreError)
  | collectionExists (name : String)
  | connectionClosed
  | emptyScope
  | collectionMissing (name : String)
  | transactionFinished
  | readOnlyTransaction
  | keyTaken (key : Key) (collection : String)
  | keyNotInteger (value : Value)
  | alreadyFinished
  /-- An error that someone outside the store states. -/
  | stated (kind : ErrorKind) (message : String)

namespace StoreError

def kind : StoreError → ErrorKind
  | .injected _ => .unknown
  | .versionNotPositive => .data
  | .versionOutdated _ _ => .version
  | .upgradeAborted _ _ => .abort
  | .collectionExists _ => .constraint
  | .connectionClosed => .invalidState
  | .emptyScope => .invalidAccess
  | .collectionMissing _ => .notFound
  | .transactionFinished => .transactionInactive
  | .readOnlyTransaction => .readOnly
  | .keyTaken _ _ => .constraint
  | .keyNotInteger _ => .data
  | .alreadyFinished => .invalidState
  | .stated kind _ => kind

def message : StoreError → String
  | .injected operation => "injected fault: " ++ operation.inspect
  | .versionNotPositive => "version must be a positive integer"
  | .versionOutdated requested existing =>
      "requested version (" ++ Text.decimal requested.toNat ++
        ") is less than the existing version (" ++ Text.decimal existing.toNat ++ ")"
  | .upgradeAborted target cause =>
      "version change to " ++ Text.decimal target.toNat ++ " aborted: " ++
        cause.kind.name ++ ": " ++ cause.message
  | .collectionExists name => "collection `" ++ name ++ "` already exists"
  | .connectionClosed => "the database connection is closing"
  | .emptyScope => "transaction scope must name at least one collection"
  | .collectionMissing name => "collection `" ++ name ++ "` was not found"
  | .transactionFinished => "the transaction has finished"
  | .readOnlyTransaction => "the transaction is read-only"
  | .keyTaken key collection =>
      "key " ++ Text.signedDecimal key.toInt ++ " already exists in `" ++ collection ++ "`"
  | .keyNotInteger value =>
      "key path `" ++ Record.keyField ++ "` holds a non-integer value " ++ value.inspect
  | .alreadyFinished => "the transaction has already finished"
  | .stated _ message => message

/-- The name of the error's kind and its message. -/
def text (error : StoreError) : String := error.kind.name ++ ": " ++ error.message

def inspect (error : StoreError) : String :=
  "StorageError \x7b kind: " ++ error.kind.inspect ++ ", message: " ++
    Text.quoted error.message ++ " \x7d"

end StoreError

end RecordSql
