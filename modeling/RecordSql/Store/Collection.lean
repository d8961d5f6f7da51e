import RecordSql.Store.Error

/-!
Collections of records. Every record is held under the key in its `id` field. A
record without that field gets the next key of the collection's generator; a
key that the caller chose moves the generator past it. The generator stops at
the greatest key.
-/

namespace RecordSql

/-- The key after this one; the greatest key is followed by itself. -/
def Key.next (key : Key) : Key := if key = Int64.maxValue then key else key + 1

structure Collection where
  records : SortedMap Key Record
  nextKey : Key

inductive Request where
  | add (record : Record)
  | getAll
  | get (key : Key)
  | put (record : Record)
  | delete (key : Key)

namespace Request

def kind : Request → RequestKind
  | .add _ => .add
  | .getAll => .getAll
  | .get _ => .get
  | .put _ => .put
  | .delete _ => .delete

/-- What a request is answered with when it succeeds. -/
abbrev Answer : Request → Type
  | .add _ => Key
  | .getAll => List Record
  | .get _ => Option Record
  | .put _ => Key
  | .delete _ => Unit

end Request

namespace Collection

def empty : Collection := ⟨.empty, 1⟩

def pass (collection : Collection) (key : Key) : Key :=
  if collection.nextKey ≤ key then key.next else collection.nextKey

def hold (collection : Collection) (key : Key) (record : Record) (nextKey : Key) :
    Collection :=
  { records := collection.records.insert key record, nextKey }

/-- Holds a record under a generated key, which is written into it. -/
def generate (collection : Collection) (record : Record) : Key × Collection :=
  let key := collection.nextKey
  (key, collection.hold key (record.insert Record.keyField (.integer key)) key.next)

/-- A key that the caller chose must be free. -/
def add (collection : Collection) (name : String) (record : Record) :
    Except StoreError (Key × Collection) :=
  match record.get? Record.keyField with
  | none => .ok (collection.generate record)
  | some (.integer key) =>
      if collection.records.contains key then .error (.keyTaken key name)
      else .ok (key, collection.hold key record (collection.pass key))
  | some value => .error (.keyNotInteger value)

def put (collection : Collection) (record : Record) : Except StoreError (Key × Collection) :=
  match record.get? Record.keyField with
  | none => .ok (collection.generate record)
  | some (.integer key) => .ok (key, collection.hold key record (collection.pass key))
  | some value => .error (.keyNotInteger value)

def delete (collection : Collection) (key : Key) : Collection :=
  { collection with records := collection.records.erase key }

/-- Carries out a request; `name` is the collection's name. -/
def answer (collection : Collection) (name : String) :
    (request : Request) → Except StoreError (request.Answer × Collection)
  | .add record => collection.add name record
  | .getAll => .ok (collection.records.items, collection)
  | .get key => .ok (collection.records.get? key, collection)
  | .put record => collection.put record
  | .delete key => .ok ((), collection.delete key)

end Collection

end RecordSql
