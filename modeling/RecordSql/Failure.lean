import RecordSql.Statement.Kind
import RecordSql.Store.Error

/-!
Every failure that a statement's or a transaction's caller can be told, with its
name, its message and its inspected form. There are four groups: a database
that could not be opened, a malformed statement, a failed request, and a failed
or finished transaction.
-/

namespace RecordSql

inductive ConfigurationFault where
  | versionNotNumber (version : String)
  | versionNotPositive (version : String)
  | versionTooLarge (version : String)
  | versionsExhausted (database : String) (version : UInt32)
  | noRuntime
  /-- A database that is still opening was asked for its connection. -/
  | unsettled (state : String)
  | stated (text : String)

inductive ParameterFault where
  | keyNotInteger (kind : StatementKind) (value : Value)
  | stated (text : String)

inductive Failure where
  | openFailed (cause : StoreError)
  | configuration (fault : ConfigurationFault)
  | missingKey (kind : StatementKind)
  | missingTable (sql : String)
  | invalidCommand (sql : String)
  | badParameter (fault : ParameterFault)
  | storage (kind : StatementKind) (cause : StoreError)
  | transactionFailed (cause : StoreError)
  | transactionClosed

namespace ConfigurationFault

def text : ConfigurationFault → String
  | .versionNotNumber version => "version " ++ Text.quoted version ++ " is not a number"
  | .versionNotPositive version => "version " ++ Text.quoted version ++ " must be positive"
  | .versionTooLarge version => "version " ++ Text.quoted version ++ " is out of range"
  | .versionsExhausted database version =>
      "database " ++ database ++ " cannot be upgraded past version " ++
        Text.decimal version.toNat
  | .noRuntime => "opening a database requires a Tokio runtime"
  | .unsettled state => "database handle settled in unexpected state " ++ state
  | .stated text => text

end ConfigurationFault

namespace ParameterFault

def text : ParameterFault → String
  | .keyNotInteger kind (.text content) =>
      kind.keyword ++ " key " ++ Text.quoted content ++ " is not an integer"
  | .keyNotInteger kind value =>
      kind.keyword ++ " key " ++ value.inspect ++ " is not an integer"
  | .stated text => text

end ParameterFault

namespace Failure

/-- The error of the store behind a failure, if there is one. -/
def cause? : Failure → Option StoreError
  | .openFailed cause | .storage _ cause | .transactionFailed cause => some cause
  | _ => none

def name : Failure → String
  | .openFailed _ => "Init"
  | .configuration _ => "ConfigError"
  | .missingKey _ => "MissingId"
  | .missingTable _ => "MissingTable"
  | .invalidCommand _ => "InvalidCommand"
  | .badParameter _ => "ParameterError"
  | .storage _ _ => "Storage"
  | .transactionFailed _ => "TransactionError"
  | .transactionClosed => "TransactionClosed"

def message : Failure → String
  | .openFailed cause => "database initialization failed: " ++ cause.text
  | .configuration fault => "Configuration error: " ++ fault.text
  | .missingKey kind => "ID for " ++ kind.keyword ++ " cannot be null"
  | .missingTable sql => "no table name found in statement: " ++ sql
  | .invalidCommand sql => "invalid command: " ++ sql
  | .badParameter fault => "Parameter conversion error: " ++ fault.text
  | .storage kind cause => kind.keyword ++ " failed: " ++ cause.text
  | .transactionFailed cause => "transaction failed: " ++ cause.text
  | .transactionClosed => "transaction already completed"

/-- The name of a failure with what it holds. -/
def inspect (failure : Failure) : String :=
  match failure with
  | .openFailed cause | .transactionFailed cause =>
      failure.name ++ "(" ++ cause.inspect ++ ")"
  | .configuration fault => failure.name ++ "(" ++ Text.quoted fault.text ++ ")"
  | .badParameter fault => failure.name ++ "(" ++ Text.quoted fault.text ++ ")"
  | .missingTable sql | .invalidCommand sql => failure.name ++ "(" ++ Text.quoted sql ++ ")"
  | .missingKey kind => failure.name ++ " \x7b kind: " ++ kind.inspect ++ " \x7d"
  | .storage kind cause =>
      failure.name ++ " \x7b kind: " ++ kind.inspect ++ ", source: " ++ cause.inspect ++ " \x7d"
  | .transactionClosed => failure.name

end Failure

end RecordSql
