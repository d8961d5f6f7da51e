import RecordSql.Handle.Lifecycle
import RecordSql.Handle.Version
import RecordSql.Statement.Plan
import RecordSql.Transaction.Journal

/-!
Database handles. A handle opens its database when it is first awaited. It
begins a transaction over all collections of its connection; if some that are
needed are not among them, it first opens the database again, one version
higher, and creates them in that upgrade. Should that fail, it opens the
database as it is, and is errored for good if it cannot.
-/

namespace RecordSql

structure Options where
  name : String
  /-- Blank for whatever version the database has. -/
  version : String
  displayName : String
  estimatedSize : UInt64
  mode : CollectionMode
  /-- Created when the database is first upgraded, except in the fixed mode. -/
  collections : List String

/-- A handle that is opening has not been awaited yet. -/
structure Handle where
  options : Options
  state : HandleState
  nextTransaction : UInt64

namespace Options

def named (name : String) : Options where
  name := name
  version := ""
  displayName := ""
  estimatedSize := 0
  mode := default
  collections := []

instance : Inhabited Options := ⟨named ""⟩

def firstCollections (options : Options) : List String :=
  match options.mode with
  | .fixed => [fixedCollection]
  | .perStatement => options.collections

end Options

namespace Handle

def new (options : Options) : Handle where
  options := options
  state := .opening
  nextTransaction := 1

instance : Inhabited Handle := ⟨new default⟩

def move (handle : Handle) (event : HandleEvent) : Handle :=
  { handle with state := handle.state.after event }

/-- Nothing can be opened where nothing can run in the background. -/
def newWithoutRuntime (options : Options) : Handle :=
  (new options).move (.failed (.configuration .noRuntime))

/-- The connection of a settled handle, or why it has none. -/
def connection (handle : Handle) : Except Failure Connection :=
  match handle.state with
  | .ready connection => .ok connection
  | .errored cause => .error cause
  | state => .error (.configuration (.unsettled state.inspect))

/-- Opens the database; an upgrade creates those of the names that are not
there. -/
def openConnection (handle : Handle) (version? : Option UInt32) (names : List String)
    (journal : Journal) : Except StoreError Connection × Handle × Journal :=
  let (opening, journal) := journal.send
    (.openDatabase handle.options.name version? fun _ _ => .createMissing names .finish)
  let handle :=
    match opening.upgrade? with
    | some run => handle.move (.upgradeNeeded run.start.oldVersion run.start.newVersion)
    | none => handle
  let result := opening.result.map fun opened =>
    { identifier := opened.connection
      database := handle.options.name
      version := opened.version
      collections := opened.collections }
  (result, handle, journal)

def openFirst (handle : Handle) (journal : Journal) : Handle × Journal :=
  match Version.read handle.options.version with
  | .error fault => (handle.move (.failed (.configuration fault)), journal)
  | .ok version? =>
      match handle.openConnection version? handle.options.firstCollections journal with
      | (.ok connection, handle, journal) => (handle.move (.opened connection), journal)
      | (.error cause, handle, journal) => (handle.move (.failed (.openFailed cause)), journal)

def settle (handle : Handle) (journal : Journal) : Handle × Journal :=
  if handle.state.isSettled then (handle, journal) else handle.openFirst journal

/-- Opens the database as it is, after an attempt to grow it has failed. -/
def fallBack (handle : Handle) (journal : Journal) : Handle × Journal :=
  match handle.openConnection none [] journal with
  | (.ok connection, handle, journal) => (handle.move (.opened connection), journal)
  | (.error cause, handle, journal) => (handle.move (.failed (.openFailed cause)), journal)

def grow (handle : Handle) (connection : Connection) (names : List String)
    (journal : Journal) : Except Failure Connection × Handle × Journal :=
  if connection.version = 4294967295 then
    (.error (.configuration (.versionsExhausted handle.options.name connection.version)),
      handle, journal)
  else
    let (_, journal) := journal.send (.close connection.identifier)
    let handle := handle.move .reopening
    match handle.openConnection (some (connection.version + 1)) names journal with
    | (.ok connection, handle, journal) =>
        (.ok connection, handle.move (.opened connection), journal)
    | (.error cause, handle, journal) =>
        let (handle, journal) := handle.fallBack journal
        (.error (.transactionFailed cause), handle, journal)

/-- What a transaction needs: in the fixed mode one collection, whatever its
statements name. -/
def needed (handle : Handle) (named : List String) : List String :=
  match handle.options.mode with
  | .fixed => [fixedCollection]
  | .perStatement => named

/-- What a transaction covers: everything its connection knows, or the one
collection of the fixed mode. -/
def scope (handle : Handle) (connection : Connection) : List String :=
  match handle.options.mode with
  | .fixed => [fixedCollection]
  | .perStatement => connection.collections

def missing (handle : Handle) (connection : Connection) (named : List String) : List String :=
  (handle.needed named).filter fun name => !connection.collections.contains name

def cover (handle : Handle) (named : List String) (journal : Journal) :
    Except Failure Connection × Handle × Journal :=
  match handle.connection with
  | .error cause => (.error cause, handle, journal)
  | .ok connection =>
      match handle.missing connection named with
      | [] => (.ok connection, handle, journal)
      | names => handle.grow connection names journal

def beginTransaction (handle : Handle) (named : List String) (journal : Journal) :
    Except Failure Nat × Handle × Journal :=
  match handle.cover named journal with
  | (.error cause, handle, journal) => (.error cause, handle, journal)
  | (.ok connection, handle, journal) =>
      let (reply, journal) := journal.send
        (.beginTransaction connection.identifier (handle.scope connection) .readWrite)
      (reply.mapError .transactionFailed, handle, journal)

def takeNumber (handle : Handle) : UInt64 × Handle :=
  (handle.nextTransaction, { handle with nextTransaction := handle.nextTransaction + 1 })

def inspect (handle : Handle) : String :=
  "DatabaseHandle \x7b name: " ++ Text.quoted handle.options.name ++ ", mode: " ++
    handle.options.mode.inspect ++ ", state: " ++ handle.state.inspect ++ ", .. \x7d"

end Handle

end RecordSql
