import RecordSql.Proofs.Replay.Accounting
import RecordSql.Proofs.Statement.Payload
import RecordSql.Proofs.Transaction.Provenance
import RecordSql.Proofs.Value.Reporting

/-!
What a script shows of its own parameters. Whatever a report lists as a field of a record, in
the rows of a SELECT or in what the database holds at last, is a parameter that the script
gives to this field of this collection, in the form in which parameters are reported, or it is
the key of the record.
-/

namespace RecordSql

/-- The parameter that a statement gives to a field: the one at the last place of its name. -/
inductive ScriptStatement.Gives (scripted : ScriptStatement) (mode : CollectionMode)
    (collection field : String) (parameter : Json) : Prop where
  | inserted {values : Record}
      (planned : scripted.statement.planned mode = .ok (.insert collection values))
      {clause : InsertClause} (found : insertClause? scripted.sql.toList = some clause)
      {index : Nat}
      (place : LastPlace
        (fun name index => ¬(name = Record.keyField ∧ scripted.params.length ≤ index))
        (Payload.columnNames clause.columns) field index)
      -- A field beyond the parameters is null.
      (taken : parameter = scripted.params[index]?.getD .null)
  | updated {key : Key} {updates : Record}
      (planned : scripted.statement.planned mode = .ok (.update collection key updates))
      {clause : UpdateClause} (found : updateClause? scripted.sql.toList = some clause)
      {index : Nat}
      (place : LastPlace (fun _ _ => True) (Payload.assignedFields clause.assignments) field index)
      (taken : scripted.params[index]? = some parameter)

namespace Script

variable (script : Script) (mode : CollectionMode)

/-- A statement of the script gives this parameter to the field. -/
def Gives (collection field : String) (parameter : Json) : Prop :=
  ∃ transaction ∈ script.transactions, ∃ scripted ∈ transaction,
    scripted.Gives mode collection field parameter

/-- What a field can hold: a parameter that it is given, or the key of its record. -/
def origin : Origin := fun collection field value =>
  (∃ parameter, script.Gives mode collection field parameter ∧ value = .ofJson parameter) ∨
    (field = Record.keyField ∧ ∃ key, value = .integer key)

/-- A field of a record is shown as the parameter that it was given, in the form in which
parameters are reported, or as the key of the record. -/
def Shows (collection field : String) (value : Value) (shown : Json) : Prop :=
  (∃ parameter, script.Gives mode collection field parameter ∧ value = .ofJson parameter ∧
      shown = parameter.reported) ∨
    (field = Record.keyField ∧ ∃ key, value = .integer key ∧ shown = .ofInt64 key)

/-- Each field of a record is shown, as what it was given. -/
def ShowsFields (collection : String) (record : Record) : Prop :=
  ∀ field value, record.get? field = some value →
    ∃ shown, record.toJson.member? field = some shown ∧
      script.Shows mode collection field value shown

theorem origin_allowsKeys : (script.origin mode).AllowsKeys :=
  fun _ key => .inr ⟨rfl, key, rfl⟩

end Script

/-- A parameter that was not supplied is null in JSON as well. -/
theorem ScriptStatement.parameter_eq (scripted : ScriptStatement) (index : Nat) :
    (scripted.params.map Value.ofJson)[index]?.getD .null =
      .ofJson (scripted.params[index]?.getD .null) := by
  rw [List.getElem?_map]
  cases scripted.params[index]? with
  | none | some => rfl

namespace Script

variable {script : Script} {mode : CollectionMode} {transaction : ScriptTransaction}
  {scripted : ScriptStatement}

/-- A plan writes nothing but the parameters of its statement. -/
theorem plan_keepsTo (within : transaction ∈ script.transactions) (member : scripted ∈ transaction)
    {plan : Plan} (planned : scripted.statement.planned mode = .ok plan) :
    plan.KeepsTo (script.origin mode) := by
  have gives : ∀ {collection field : String} {parameter : Json},
      scripted.Gives mode collection field parameter →
      script.origin mode collection field (.ofJson parameter) :=
    fun given => .inl ⟨_, ⟨transaction, within, scripted, member, given⟩, rfl⟩
  cases planOf_ok_iff.mp planned with
  | select | delete => trivial
  | insert kind resolved =>
    intro field value held
    cases found : insertClause? scripted.sql.toList with
    | none =>
      simp only [ScriptStatement.statement, Payload.ofInsert, found] at held
      cases held
    | some clause =>
      simp only [ScriptStatement.statement, Payload.ofInsert, found] at held
      obtain ⟨index, place, rfl⟩ := (Payload.insertedFields_takes _ _ field value).mp held
      rw [List.length_map] at place
      rw [scripted.parameter_eq]
      exact gives (.inserted planned found place rfl)
  | update kind resolved keyed =>
    intro field value held
    obtain ⟨clause, found, beyond, -⟩ := Payload.ofUpdate_keyed_iff.mp keyed
    have names := Payload.ofUpdate_updates found scripted.statement.params
    simp only [ScriptStatement.statement] at names beyond held found
    rw [names] at held
    obtain ⟨index, place, rfl⟩ := (Payload.assign_takes _ _ field value).mp held
    -- The parameters run past the assignments, so this one was supplied.
    rw [List.length_map] at beyond
    have supplied := List.getElem?_eq_getElem (Nat.lt_trans place.lt beyond)
    rw [scripted.parameter_eq, supplied]
    exact gives (.updated planned found place supplied)

theorem program_writes (within : transaction ∈ script.transactions) :
    Transaction.Writes (script.origin mode) mode transaction.program := by
  intro place statement plan found planned
  obtain ⟨index, -, stands⟩ := Place.statement?_of_alone transaction.program_alone found
  obtain ⟨scripted, member, rfl⟩ := List.mem_map.mp (List.mem_of_getElem? stands)
  exact plan_keepsTo within member planned

section Runs

variable (script) (settings : ReplaySettings)

/-- What was given before a transaction of the script is given after it. -/
theorem runAt_traces {index : Nat}
    (keeps : (script.met settings index).2.KeepsTo (script.origin settings.mode))
    (within : transaction ∈ script.transactions) :
    Transaction.Traces (script.origin settings.mode) settings.mode transaction.program []
      (script.runAt settings index transaction).journal := by
  have mode := script.met_mode settings index
  have writes : Transaction.Writes (script.origin settings.mode) settings.mode
      transaction.program := program_writes within
  rw [← mode] at writes keeps ⊢
  exact Transaction.run_traces settings.schedule (script.origin_allowsKeys _) writes keeps

/-- Along the script: no transaction stores anything but what the script gives. -/
theorem met_keepsTo (index : Nat) :
    (script.met settings index).2.KeepsTo (script.origin settings.mode) := by
  induction index with
  | zero => exact Store.keepsTo_empty _
  | succ index ih =>
    rw [met, afterAll, List.take_add_one, List.foldl_append]
    -- Beyond the last transaction nothing is met that was not met before.
    cases found : script.transactions[index]? with
    | none => exact ih
    | some transaction =>
      exact (script.runAt_traces settings ih (List.mem_of_getElem? found)).keeps

end Runs

theorem showsFields_of_keepsTo {collection : String} {record : Record}
    (keeps : record.KeepsTo (script.origin mode) collection) :
    script.ShowsFields mode collection record := by
  intro field value held
  refine ⟨value.toJson, ?_, ?_⟩
  · rw [Record.member?_toJson, held, Option.map_some]
  · rcases keeps field value held with ⟨parameter, gives, rfl⟩ | ⟨same, key, rfl⟩
    · exact .inl ⟨parameter, gives, rfl, Value.toJson_ofJson parameter⟩
    · exact .inr ⟨same, key, rfl, rfl⟩

end Script

/-- The rows in the written form of a report. -/
def StatementReport.rows? (report : StatementReport) : Option Json :=
  (report.toJson.member? "outcome").bind (Json.member? "rows")

/-- A statement that has failed has no rows. -/
theorem StatementReport.rows?_eq (report : StatementReport) :
    report.rows? = report.outcome.toOption.map fun result =>
      .array (result.rows.map Record.toJson) := by
  simp only [rows?, toJson, Json.member?_ofMembers, SortedMap.ofList, List.foldl_cons,
    List.foldl_nil, SortedMap.get?_insert_self, Option.bind_some]
  cases report.outcome with
  | ok result =>
    simp [outcomeJson, ResultSet.toJson, Json.member?_ofMembers, SortedMap.ofList,
      Except.toOption]
  | error cause =>
    simp [outcomeJson, Json.member?_ofMembers, SortedMap.ofList, SortedMap.get?_insert,
      Except.toOption]

/-- A dump lists the collections of its database, each by the records that it holds. -/
theorem Store.snapshot?_collections {store : Store} {database : String} {dump : Json}
    (dumped : store.snapshot? database = some dump) :
    ∃ tables, dump.member? "collections" = some (.object tables) ∧
      ∀ collection table, (collection, table) ∈ tables ↔
        ∃ held, store.collection? database collection = some held ∧
          table = .array (held.records.items.map Record.toJson) := by
  obtain ⟨found, present, rfl⟩ := Option.map_eq_some_iff.mp dumped
  refine ⟨found.collections.entries.map fun entry =>
    (entry.1, .array (entry.2.records.items.map Record.toJson)), ?_, ?_⟩
  · rw [Json.member?_ofMembers]
    simp only [SortedMap.ofList, List.foldl_cons, List.foldl_nil, SortedMap.get?_insert_self]
  · intro collection table
    rw [collection?, present, Option.bind_some, List.mem_map]
    constructor
    · rintro ⟨⟨name, held⟩, entry, same⟩
      obtain ⟨rfl, rfl⟩ := Prod.mk.inj same
      exact ⟨held, (SortedMap.get?_eq_some_iff _ _ _).mpr entry, rfl⟩
    · rintro ⟨held, stored, rfl⟩
      exact ⟨(collection, held), (SortedMap.get?_eq_some_iff _ _ _).mp stored, rfl⟩

theorem Store.snapshot?_of_collection? {store : Store} {database collection : String}
    {held : Collection} (present : store.collection? database collection = some held) :
    ∃ dump tables, store.snapshot? database = some dump ∧
      dump.member? "collections" = some (.object tables) ∧
      (collection, .array (held.records.items.map Record.toJson)) ∈ tables := by
  obtain ⟨found, stands, -⟩ := Option.bind_eq_some_iff.mp present
  have dumped : store.snapshot? database = some _ := congrArg _ stands
  obtain ⟨tables, written, lists⟩ := snapshot?_collections dumped
  exact ⟨_, tables, dumped, written, (lists collection _).mpr ⟨held, present, rfl⟩⟩

namespace Script

/-- What the database of a script holds at last under the name of a collection. -/
def last? (script : Script) (settings : ReplaySettings) (collection : String) :
    Option Collection :=
  (script.met settings script.transactions.length).2.collection?
    (script.options settings).name collection

/-- What a report shows of the parameters of its script. -/
structure ShowsParameters (script : Script) (settings : ReplaySettings) (report : Report) :
    Prop where
  /-- In the rows of a statement that has succeeded, from the collection that it works on. -/
  selected : ∀ entry ∈ report.transactions, ∀ told ∈ entry.statements, ∀ result,
    told.outcome = .ok result →
      told.rows? = some (.array (result.rows.map Record.toJson)) ∧
      ∃ collection, resolveCollection settings.mode told.sql.toList = .ok collection ∧
        ∀ record ∈ result.rows, script.ShowsFields settings.mode collection record
  /-- In the dump, whatever the database holds at last. -/
  stored : ∀ collection held, script.last? settings collection = some held →
    (∃ dump tables, report.snapshot? = some dump ∧
      dump.member? "collections" = some (.object tables) ∧
      (collection, .array (held.records.items.map Record.toJson)) ∈ tables) ∧
    ∀ record ∈ held.records.items, script.ShowsFields settings.mode collection record
  /-- The dump shows nothing else. -/
  dumped : ∀ dump, report.snapshot? = some dump → ∃ tables,
    dump.member? "collections" = some (.object tables) ∧
    ∀ collection table, (collection, table) ∈ tables → ∃ held,
      script.last? settings collection = some held ∧
      table = .array (held.records.items.map Record.toJson)

theorem replay_shows (script : Script) (settings : ReplaySettings) :
    script.ShowsParameters settings (script.replay settings) where
  selected := by
    intro entry listed told among result success
    refine ⟨by rw [told.rows?_eq, success]; rfl, ?_⟩
    -- An entry tells of the run at its own place, which meets what the runs before it have left.
    obtain ⟨index, stands⟩ := List.mem_iff_getElem?.mp listed
    rw [replay_entry] at stands
    obtain ⟨transaction, found, rfl⟩ := Option.map_eq_some_iff.mp stands
    have traces := script.runAt_traces settings (script.met_keepsTo settings index)
      (List.mem_of_getElem? found)
    rw [TransactionReport.ofRun, StatementReport.ofEvents_eq] at among
    obtain ⟨settlement, settled, rfl⟩ := List.mem_map.mp among
    obtain ⟨plan, planned, keeps⟩ := traces.settled settlement settled result success
    refine ⟨plan.collection, planOf_collection planned, ?_⟩
    exact fun record member => showsFields_of_keepsTo (keeps record member)
  stored := by
    intro collection held present
    constructor
    · rw [replay_store]
      exact Store.snapshot?_of_collection? present
    · intro record listed
      obtain ⟨⟨key, same⟩, entry, rfl⟩ := List.mem_map.mp listed
      have found := (SortedMap.get?_eq_some_iff _ _ _).mpr entry
      have keeps := script.met_keepsTo settings script.transactions.length
      exact showsFields_of_keepsTo (keeps _ collection held present key same found)
  dumped := by
    intro dump shown
    rw [replay_store] at shown
    obtain ⟨tables, written, lists⟩ := Store.snapshot?_collections shown
    exact ⟨tables, written, fun collection table => (lists collection table).mp⟩

/-- A parameter is reported as it was given, unless it is a number that has no value of its own,
and so is every field that a statement has stored it in. -/
theorem parameters_are_reported_as_given (script : Script) (settings : ReplaySettings) :
    (∀ json, (Value.ofJson json).toJson = json.reported) ∧
      (∀ json, Json.reported json = json ↔ ¬json.IsUnsigned) ∧
      (∀ number low high, 9223372036854775808 ≤ number → ∃ finite,
        Json.reported (.number (.integer number low high)) =
          .number (.real (Binary64.ofInt number) finite)) ∧
      (∀ record field, (Record.toJson record).member? field =
        (SortedMap.get? record field).map Value.toJson) ∧
      script.ShowsParameters settings (script.replay settings) :=
  ⟨Value.toJson_ofJson, Json.reported_eq_iff, fun _ => Json.reported_unsigned,
    Record.member?_toJson, script.replay_shows settings⟩

end Script

end RecordSql
