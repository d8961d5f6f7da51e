import RecordSql.Proofs.Store.Soundness

/-!
The log of a store: what its exchanges tell, in their order and without a look at
the store itself. Replies name the connections and transactions, an upgrade that
was carried out names the collections, and an answered request says what was
written under which key. What is read from a store, through any transaction and
in a snapshot, is what stands last in its log.
-/

namespace RecordSql

/-- A write that was carried out: what a key was given, or nothing where it was
deleted. -/
structure Write where
  database : String
  collection : String
  key : Key
  record? : Option Record

/-- A record as it is held. One that names no key carries the key it was given. -/
def Record.keyed (record : Record) (key : Key) : Record :=
  match record.get? keyField with
  | none => record.insert keyField (.integer key)
  | some _ => record

/-- What an answered request has written. -/
def Request.written? : (asked : Request) → asked.Answer → Option (Key × Option Record)
  | .add record, key => some (key, some (record.keyed key))
  | .put record, key => some (key, some (record.keyed key))
  | .delete key, () => some (key, none)
  | .getAll, _ => none
  | .get _, _ => none

/-- The newest write stands first. -/
structure Log where
  /-- The database that a connection was opened on. -/
  connections : Nat → Option String
  /-- The database that a transaction has begun on. -/
  transactions : Nat → Option String
  /-- The version at which a database was opened last. -/
  versions : String → Option UInt32
  /-- Databases with the collections that were created there. -/
  created : List (String × String)
  writes : List Write

namespace Log

def empty : Log := ⟨fun _ => none, fun _ => none, fun _ => none, [], []⟩

def opened (log : Log) (name : String) (opened : Opened) (upgrade? : Option UpgradeRun) :
    Log where
  connections := fun other =>
    if other = opened.connection then some name else log.connections other
  transactions := log.transactions
  versions := fun other => if other = name then some opened.version else log.versions other
  created :=
    match upgrade? with
    | some run => run.finish.created.map (Prod.mk name) ++ log.created
    | none => log.created
  writes := log.writes

def began (log : Log) (connection transaction : Nat) : Log :=
  { log with transactions := fun other =>
      if other = transaction then log.connections connection else log.transactions other }

def answered (log : Log) (transaction : Nat) (collection : String) (asked : Request)
    (answer : asked.Answer) : Log :=
  match log.transactions transaction, asked.written? answer with
  | some database, some (key, record?) =>
      { log with writes := ⟨database, collection, key, record?⟩ :: log.writes }
  | _, _ => log

/-- Only what was carried out is noted. -/
def note (log : Log) : Exchange → Log
  | ⟨.openDatabase name _ _, ⟨.ok opened, upgrade?⟩⟩ => log.opened name opened upgrade?
  | ⟨.beginTransaction connection _ _, .ok transaction⟩ => log.began connection transaction
  | ⟨.request transaction collection asked, .ok answer⟩ =>
      log.answered transaction collection asked answer
  | _ => log

def of (exchanges : List Exchange) : Log := exchanges.foldl note empty

/-- What the last write under a key has left there. -/
def record? (log : Log) (database collection : String) (key : Key) : Option Record :=
  (log.writes.find? fun write =>
    decide (write.database = database ∧ write.collection = collection ∧ write.key = key)).bind
      Write.record?

/-- The entries of a collection: each key with the record that the log has there,
in the order of the keys, which the records carry. -/
structure Lists (log : Log) (database collection : String) (entries : List (Key × Record)) :
    Prop where
  ascending : entries.Pairwise fun first second => first.1 < second.1
  exact : ∀ key record,
    (key, record) ∈ entries ↔ log.record? database collection key = some record
  carried : ∀ entry ∈ entries, entry.2.id? = some entry.1

/-- The collections of a database, in the order of their names. -/
structure Tables (log : Log) (name : String) (tables : List (String × List (Key × Record))) :
    Prop where
  ascending : tables.Pairwise fun first second => first.1 < second.1
  created : ∀ collection, collection ∈ tables.map Prod.fst ↔ (name, collection) ∈ log.created
  lists : ∀ table ∈ tables, log.Lists name table.1 table.2

/-- The reported form of a database with these collections. -/
def report (name : String) (version : UInt32) (tables : List (String × List (Key × Record))) :
    Json :=
  .ofMembers
    [("name", .string name),
      ("version", .ofUInt32 version),
      ("collections", .object (tables.map fun table =>
        (table.1, .array (table.2.map fun entry => entry.2.toJson))))]

end Log

def Exchange.opens (name : String) : Exchange → Bool
  | ⟨.openDatabase other _ _, opening⟩ => decide (other = name) && opening.result.isOk
  | _ => false

namespace Log

theorem note_idle (log : Log) (exchange : Exchange) (idle : exchange.isIdle = true) :
    log.note exchange = log := by
  obtain ⟨command, reply⟩ := exchange
  cases command with
  | openDatabase name version? upgrade =>
    obtain ⟨cause | opened, upgrade?⟩ := reply
    · rfl
    · cases idle
  | beginTransaction connection scope mode =>
    obtain cause | transaction := reply
    · rfl
    · cases idle
  | request transaction collection asked =>
    obtain cause | answer := reply
    · rfl
    · cases idle
  | close | commit | abort | inject | snapshot => rfl

/-- A version is noted for the databases that were opened. -/
theorem versions_note (log : Log) (exchange : Exchange) (name : String) :
    (log.note exchange).versions name = none ↔
      log.versions name = none ∧ exchange.opens name = false := by
  obtain ⟨command, reply⟩ := exchange
  cases command with
  | openDatabase other version? upgrade =>
    obtain ⟨cause | opened, upgrade?⟩ := reply
    · simp [note, Exchange.opens, Except.isOk, Except.toBool]
    · by_cases same : other = name
      · simp [note, Log.opened, Exchange.opens, Except.isOk, Except.toBool, same]
      · simp [note, Log.opened, Exchange.opens, same, Ne.symm same]
  | beginTransaction connection scope mode =>
    obtain cause | transaction := reply <;> simp [note, Exchange.opens, began]
  | request transaction collection asked =>
    obtain cause | answer := reply
    · simp [note, Exchange.opens]
    · simp only [note, answered, Exchange.opens, and_true]
      split <;> rfl
  | close | commit | abort | inject | snapshot => simp [note, Exchange.opens]

theorem versions_foldl (log : Log) (exchanges : List Exchange) (name : String) :
    (exchanges.foldl note log).versions name = none ↔
      log.versions name = none ∧ ∀ exchange ∈ exchanges, exchange.opens name = false := by
  induction exchanges generalizing log with
  | nil => simp
  | cons exchange rest ih =>
    rw [List.foldl_cons, ih, versions_note, List.forall_mem_cons, and_assoc]

theorem versions_eq_none_iff (exchanges : List Exchange) (name : String) :
    (of exchanges).versions name = none ↔
      ∀ exchange ∈ exchanges, exchange.opens name = false := by
  rw [of, versions_foldl]
  exact and_iff_right rfl

theorem record?_cons (log : Log) (write : Write) (database collection : String) (key : Key) :
    ({ log with writes := write :: log.writes } : Log).record? database collection key =
      if write.database = database ∧ write.collection = collection ∧ write.key = key then
        write.record?
      else log.record? database collection key := by
  simp only [record?, List.find?_cons]
  by_cases here : write.database = database ∧ write.collection = collection ∧ write.key = key
  · simp [here]
  · simp [here]

end Log

end RecordSql
