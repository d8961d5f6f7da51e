import RecordSql.Store.Error

/-!
Schema upgrades. While a database changes its version, the one who opened it may
ask which collections there are and create new ones. An upgrade is what that
caller does, step by step; it can react to every answer, and it can give up.
-/

namespace RecordSql

structure Schema where
  oldVersion : UInt32
  newVersion : UInt32
  existing : List String
  /-- The names created so far, in that order. -/
  created : List String

namespace Schema

def contains (schema : Schema) (name : String) : Bool :=
  schema.existing.contains name || schema.created.contains name

def create (schema : Schema) (name : String) : Except StoreError Schema :=
  if schema.contains name then .error (.collectionExists name)
  else .ok { schema with created := schema.created ++ [name] }

end Schema

inductive Upgrade where
  | finish
  | fail (cause : StoreError)
  | check (name : String) (next : Bool → Upgrade)
  | create (name : String) (next : Option StoreError → Upgrade)

/-- An upgrade that was carried out: the schema it met, the schema it left and
why it gave up, if it did. -/
structure UpgradeRun where
  start : Schema
  finish : Schema
  failure? : Option StoreError

namespace Upgrade

def apply : Upgrade → Schema → Schema × Option StoreError
  | .finish, schema => (schema, none)
  | .fail cause, schema => (schema, some cause)
  | .check name next, schema => apply (next (schema.contains name)) schema
  | .create name next, schema =>
      match schema.create name with
      | .ok schema => apply (next none) schema
      | .error cause => apply (next (some cause)) schema

def run (upgrade : Upgrade) (start : Schema) : UpgradeRun :=
  let outcome := upgrade.apply start
  { start, finish := outcome.1, failure? := outcome.2 }

/-- Creates the names in order; the first failure ends the upgrade. -/
def createEach (names : List String) (last : Upgrade) : Upgrade :=
  names.foldr (fun name rest => .create name fun failure? =>
    match failure? with
    | some cause => .fail cause
    | none => rest) last

def createMissing (names : List String) (last : Upgrade) : Upgrade :=
  names.foldr (fun name rest => .check name fun present =>
    if present then rest else createEach [name] rest) last

end Upgrade

end RecordSql
