import RecordSql.Store.Collection
import RecordSql.Store.Schema

/-!
The store: databases by name, connections to them and transactions over some of
their collections. Requests take effect at once; finishing a transaction, in
whichever way, only ends it. Each pending fault makes one matching operation
fail, once that operation has passed every other check.
-/

namespace RecordSql

structure Database where
  version : UInt32
  collections : SortedMap String Collection

inductive AccessMode where
  | readOnly
  | readWrite
deriving DecidableEq

structure ActiveTransaction where
  database : String
  scope : List String
  mode : AccessMode

structure Store where
  databases : SortedMap String Database
  connections : SortedMap Nat String
  transactions : SortedMap Nat ActiveTransaction
  faults : List Operation
  nextConnection : Nat
  nextTransaction : Nat

/-- What a caller learns from opening a database. -/
structure Opened where
  connection : Nat
  version : UInt32
  collections : List String

/-- How an open ended, and the upgrade it carried out on the way. -/
structure Opening where
  result : Except StoreError Opened
  upgrade? : Option UpgradeRun

namespace Database

def empty : Database := ⟨0, .empty⟩

/-- The database at a new version with new, empty collections. A collection that
is there stays as it is. -/
def grow (database : Database) (version : UInt32) (names : List String) : Database where
  version := version
  collections := names.foldl (fun collections name =>
    if collections.contains name then collections else collections.insert name .empty)
    database.collections

end Database

namespace Store

def empty : Store := ⟨.empty, .empty, .empty, [], 0, 0⟩

instance : Inhabited Store := ⟨empty⟩

/-- Identifiers count up to the greatest number of 64 bits. -/
def following (identifier : Nat) : Nat :=
  if identifier < 18446744073709551615 then identifier + 1 else identifier

/-- The store without one pending fault of this operation, if there is one. -/
def takeFault? (store : Store) (operation : Operation) : Option Store :=
  if operation ∈ store.faults then
    some { store with faults := store.faults.erase operation }
  else none

def database (store : Store) (name : String) : Database :=
  (store.databases.get? name).getD .empty

def connect (store : Store) (name : String) : Opened × Store :=
  let database := store.database name
  let opened : Opened :=
    { connection := store.nextConnection
      version := database.version
      collections := database.collections.keys }
  (opened, { store with
    connections := store.connections.insert store.nextConnection name
    nextConnection := following store.nextConnection })

/-- The schema that an upgrade to `target` meets. -/
def schemaOf (store : Store) (name : String) (target : UInt32) : Schema where
  oldVersion := (store.database name).version
  newVersion := target
  existing := (store.database name).collections.keys
  created := []

/-- Without a version a database is opened at the version it has, a new one at
version 1. A newer version runs the upgrade first. -/
def openDatabase (store : Store) (name : String) (version? : Option UInt32)
    (upgrade : UInt32 → UInt32 → Upgrade) : Opening × Store :=
  match store.takeFault? .openDatabase with
  | some store => (⟨.error (.injected .openDatabase), none⟩, store)
  | none =>
      if version? = some 0 then (⟨.error .versionNotPositive, none⟩, store)
      else
        let current := (store.database name).version
        let target := version?.getD (max current 1)
        if target < current then (⟨.error (.versionOutdated target current), none⟩, store)
        else if current < target then
          let run := (upgrade current target).run (store.schemaOf name target)
          match run.failure? with
          | some cause => (⟨.error (.upgradeAborted target cause), some run⟩, store)
          | none =>
              let grown := (store.database name).grow target run.finish.created
              let (opened, store) :=
                connect { store with databases := store.databases.insert name grown } name
              (⟨.ok opened, some run⟩, store)
        else
          let (opened, store) := store.connect name
          (⟨.ok opened, none⟩, store)

def close (store : Store) (connection : Nat) : Store :=
  { store with connections := store.connections.erase connection }

def beginTransaction (store : Store) (connection : Nat) (scope : List String)
    (mode : AccessMode) : Except StoreError Nat × Store :=
  match store.connections.get? connection with
  | none => (.error .connectionClosed, store)
  | some database =>
      if scope.isEmpty then (.error .emptyScope, store)
      else
        match scope.find? fun name => !(store.database database).collections.contains name with
        | some name => (.error (.collectionMissing name), store)
        | none =>
            (.ok store.nextTransaction, { store with
              transactions :=
                store.transactions.insert store.nextTransaction { database, scope, mode }
              nextTransaction := following store.nextTransaction })

def collection? (store : Store) (database collection : String) : Option Collection :=
  (store.databases.get? database).bind fun held => held.collections.get? collection

def hold (store : Store) (name collection : String) (held : Collection) : Store :=
  let database := store.database name
  let changed := { database with collections := database.collections.insert collection held }
  { store with databases := store.databases.insert name changed }

def request (store : Store) (transaction : Nat) (collection : String) (request : Request) :
    Except StoreError request.Answer × Store :=
  match store.transactions.get? transaction with
  | none => (.error .transactionFinished, store)
  | some active =>
      if collection ∉ active.scope then (.error (.collectionMissing collection), store)
      else if request.kind.isWrite ∧ active.mode = .readOnly then
        (.error .readOnlyTransaction, store)
      else
        match store.takeFault? (.request request.kind) with
        | some store => (.error (.injected (.request request.kind)), store)
        | none =>
            match store.collection? active.database collection with
            | none => (.error (.collectionMissing collection), store)
            | some held =>
                match held.answer collection request with
                | .error cause => (.error cause, store)
                | .ok (answer, held) => (.ok answer, store.hold active.database collection held)

/-- The transaction ends even where committing it fails. -/
def commit (store : Store) (transaction : Nat) : Except StoreError Unit × Store :=
  match store.transactions.get? transaction with
  | none => (.error .alreadyFinished, store)
  | some _ =>
      let store := { store with transactions := store.transactions.erase transaction }
      match store.takeFault? .commit with
      | some store => (.error (.injected .commit), store)
      | none => (.ok (), store)

def abort (store : Store) (transaction : Nat) : Store :=
  { store with transactions := store.transactions.erase transaction }

def inject (store : Store) (operation : Operation) : Store :=
  { store with faults := store.faults ++ [operation] }

/-- The reported form of a whole database. -/
def snapshot? (store : Store) (name : String) : Option Json :=
  (store.databases.get? name).map fun database =>
    .ofMembers
      [("name", .string name),
        ("version", .ofUInt32 database.version),
        ("collections", .object (database.collections.entries.map fun (name, collection) =>
          (name, .array (collection.records.items.map Record.toJson))))]

end Store

end RecordSql
