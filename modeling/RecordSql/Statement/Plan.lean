import RecordSql.Failure
import RecordSql.Statement.Payload

/-!
Planning a statement: its kind, the collection it works on and what it carries.
In the fixed mode every statement works on one collection whatever table it
names; otherwise its first table clause names the collection.
-/

namespace RecordSql

inductive CollectionMode where
  | fixed
  | perStatement
deriving DecidableEq

namespace CollectionMode

instance : Inhabited CollectionMode := ⟨.perStatement⟩

def all : List CollectionMode := [.fixed, .perStatement]

def name : CollectionMode → String
  | .fixed => "fixed"
  | .perStatement => "per-statement"

def inspect : CollectionMode → String
  | .fixed => "Fixed"
  | .perStatement => "PerStatement"

def ofName? (name : String) : Option CollectionMode := all.find? fun mode => mode.name == name

/-- Names are compared without regard to the case of ASCII letters. -/
def ofNameAnyCase? (name : String) : Option CollectionMode :=
  all.find? fun mode => mode.name.toList.map Char.toUpper == name.toList.map Char.toUpper

end CollectionMode

/-- The collection of the fixed mode. -/
def fixedCollection : String := "store"

inductive Plan where
  | insert (collection : String) (values : Record)
  | select (collection : String)
  | update (collection : String) (key : Key) (updates : Record)
  | delete (collection : String) (key : Key)

namespace Plan

def kind : Plan → StatementKind
  | .insert _ _ => .insert
  | .select _ => .select
  | .update _ _ _ => .update
  | .delete _ _ => .delete

def collection : Plan → String
  | .insert collection _ => collection
  | .select collection => collection
  | .update collection _ _ => collection
  | .delete collection _ => collection

end Plan

/-- The nearest whole number that 64 signed bits hold. -/
def Key.clamp (number : Int) : Key :=
  if number < Int64.minValue.toInt then Int64.minValue
  else if Int64.maxValue.toInt < number then Int64.maxValue
  else Int64.ofInt number

/-- A whole number, a float without a fraction and the text of a whole number
are keys. A float beyond the range of keys is the nearest key. -/
def Key.ofValue (kind : StatementKind) : Option Value → Except Failure Key
  | none | some .null => .error (.missingKey kind)
  | some (.integer key) => .ok key
  | some (.real number) =>
      match number.integer? with
      | some key => .ok (Key.clamp key)
      | none => .error (.badParameter (.keyNotInteger kind (.real number)))
  | some (.text content) =>
      match Text.integer? (Text.trim content.toList) with
      | some key =>
          if Int64.minValue.toInt ≤ key ∧ key ≤ Int64.maxValue.toInt then
            .ok (Int64.ofInt key)
          else .error (.badParameter (.keyNotInteger kind (.text content)))
      | none => .error (.badParameter (.keyNotInteger kind (.text content)))
  | some value => .error (.badParameter (.keyNotInteger kind value))

/-- The collection of a recognized statement. -/
def resolveCollection (mode : CollectionMode) (sql : List Char) : Except Failure String :=
  match mode with
  | .fixed => .ok fixedCollection
  | .perStatement =>
      match tableName? sql with
      | some table => .ok (String.ofList table)
      | none => .error (.missingTable (String.ofList (Text.trim sql)))

/-- The collection is looked for before the key. -/
def planOf (mode : CollectionMode) (sql : List Char) (params : List Value) :
    Except Failure Plan :=
  match StatementKind.classify sql with
  | .unrecognized => .error (.invalidCommand (String.ofList (Text.trim sql)))
  | .insert => do
      let collection ← resolveCollection mode sql
      .ok (.insert collection (Payload.ofInsert sql params))
  | .select => do
      let collection ← resolveCollection mode sql
      .ok (.select collection)
  | .update => do
      let collection ← resolveCollection mode sql
      let payload := Payload.ofUpdate sql params
      let key ← Key.ofValue .update payload.key?
      .ok (.update collection key payload.updates)
  | .delete => do
      let collection ← resolveCollection mode sql
      let key ← Key.ofValue .delete (Payload.ofDelete sql params)
      .ok (.delete collection key)

def plan (mode : CollectionMode) (sql : String) (params : List Value) : Except Failure Plan :=
  planOf mode sql.toList params

end RecordSql
