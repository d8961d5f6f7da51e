import RecordSql.Proofs.Store.Log

/-!
Stores are read as their logs tell. A store agrees with a log when it reaches the
same databases, has the same collections and holds under each key what the log
has there. Each exchange keeps the two in agreement, however many connections
and transactions take turns, so after a whole history every reading is one of
the log.
-/

namespace RecordSql

namespace Collection

/-- Under the key that a request has written stands what it wrote, and all else is
as before. -/
theorem get?_answered {held changed : Collection} {name : String} {asked : Request}
    {answer : asked.Answer} (success : held.answer name asked = .ok (answer, changed))
    (other : Key) :
    changed.records.get? other =
      match asked.written? answer with
      | some (key, record?) => if key = other then record? else held.records.get? other
      | none => held.records.get? other := by
  have inserted : ∀ (key : Key) (record : Record) (nextKey : Key),
      (held.hold key record nextKey).records.get? other =
        if key = other then some record else held.records.get? other := by
    intro key record nextKey
    simp only [hold, SortedMap.get?_insert, eq_comm]
  cases asked with
  | add record =>
    rcases add_ok success with ⟨unnamed, -, same⟩ | ⟨named, -, same⟩
    · simp only [same, inserted, Request.written?, Record.keyed, unnamed]
    · simp only [same, inserted, Request.written?, Record.keyed, named]
  | put record =>
    rcases put_ok success with ⟨unnamed, -, same⟩ | ⟨named, same⟩
    · simp only [same, inserted, Request.written?, Record.keyed, unnamed]
    · simp only [same, inserted, Request.written?, Record.keyed, named]
  | getAll | get key =>
    cases success
    rfl
  | delete key =>
    cases success
    simp only [Request.written?, delete]
    by_cases same : key = other
    · rw [if_pos same, ← same, SortedMap.get?_erase_self]
    · rw [if_neg same, SortedMap.get?_erase_of_ne _ (Ne.symm same)]

end Collection

namespace Store

/-- What a store holds under a key of a collection. -/
def record? (store : Store) (database collection : String) (key : Key) : Option Record :=
  (store.collection? database collection).bind fun held => held.records.get? key

/-- A store agrees with a log. -/
structure Logged (store : Store) (log : Log) : Prop where
  sound : store.Sound
  connections : ∀ identifier name, store.connections.get? identifier = some name →
    log.connections identifier = some name
  transactions : ∀ identifier active, store.transactions.get? identifier = some active →
    log.transactions identifier = some active.database
  versions : ∀ name, log.versions name = (store.databases.get? name).map Database.version
  created : ∀ name collection,
    (name, collection) ∈ log.created ↔ (store.collection? name collection).isSome = true
  records : ∀ name collection key,
    log.record? name collection key = store.record? name collection key

theorem logged_empty : empty.Logged .empty where
  sound := sound_empty
  connections := by
    intro identifier name reached
    cases reached
  transactions := by
    intro identifier active running
    cases running
  versions := fun name => rfl
  created := by
    intro name collection
    exact iff_of_false List.not_mem_nil (by simp [collection?, empty])
  records := fun name collection key => rfl

section Steps

variable {store : Store} {log : Log}

theorem Logged.within (logged : store.Logged log) {later : Store}
    (within : later.Within store) : later.Logged log where
  sound := logged.sound.within within
  connections := fun identifier name reached =>
    logged.connections identifier name (within.connections identifier name reached)
  transactions := fun identifier active running =>
    logged.transactions identifier active (within.transactions identifier active running)
  versions := by
    rw [within.databases]
    exact logged.versions
  created := by
    intro name collection
    rw [collection?_of_databases within.databases]
    exact logged.created name collection
  records := by
    intro name collection key
    rw [record?, collection?_of_databases within.databases]
    exact logged.records name collection key

theorem Logged.connect (logged : store.Logged log) {name : String} {database : Database}
    (there : store.databases.get? name = some database) :
    (store.connect name).2.Logged (log.opened name (store.connect name).1 none) where
  sound := logged.sound.connect there
  connections := by
    intro identifier other reached
    simp only [Store.connect] at reached
    change (if identifier = store.nextConnection then some name
      else log.connections identifier) = some other
    by_cases same : identifier = store.nextConnection
    · rw [same, SortedMap.get?_insert_self] at reached
      rw [if_pos same, reached]
    · rw [SortedMap.get?_insert_of_ne _ same] at reached
      rw [if_neg same, logged.connections identifier other reached]
  transactions := logged.transactions
  versions := by
    intro other
    simp only [Store.connect, Log.opened]
    by_cases same : other = name
    · rw [if_pos same, same, there]
      simp only [Store.database, there]
      rfl
    · rw [if_neg same, logged.versions other]
  created := logged.created
  records := logged.records

/-- An upgrade brings new collections and no records. -/
theorem record?_grown (name : String) (version : UInt32) (created : List String)
    (other collection : String) (key : Key) :
    (store.grown name version created).record? other collection key =
      store.record? other collection key := by
  simp only [record?]
  by_cases same : other = name
  · subst same
    rw [collection?_grown_self]
    cases store.collection? other collection with
    | some held => rw [Option.some_or]
    | none =>
      rw [Option.none_or]
      split <;> rfl
  · rw [collection?_grown_of_ne store name version created same]

theorem Logged.upgrade (logged : store.Logged log) (name : String) {target : UInt32}
    (newer : (store.database name).version < target) (run : UpgradeRun) (grownStore : Store)
    (grows : grownStore = store.grown name target run.finish.created) :
    (grownStore.connect name).2.Logged
      (log.opened name (grownStore.connect name).1 (some run)) := by
  subst grows
  -- The new collections are logged first, then it is an opening like any other.
  have grown : (store.grown name target run.finish.created).Logged
      { log with
        versions := fun other => if other = name then some target else log.versions other
        created := run.finish.created.map (Prod.mk name) ++ log.created } := by
    refine ⟨logged.sound.grown name newer run.finish.created, logged.connections,
      logged.transactions, ?_, ?_, ?_⟩
    · intro other
      by_cases same : other = name
      · subst same
        simp only [Store.grown, SortedMap.get?_insert_self, if_pos]
        rfl
      · simp only [Store.grown, SortedMap.get?_insert_of_ne _ same, if_neg same]
        exact logged.versions other
    · intro other collection
      rw [List.mem_append, logged.created]
      by_cases same : other = name
      · subst same
        rw [collection?_grown_self]
        cases store.collection? other collection <;> simp
      · rw [collection?_grown_of_ne store name _ _ same]
        simp [Ne.symm same]
    · intro other collection key
      rw [record?_grown]
      exact logged.records other collection key
  have connected := grown.connect (SortedMap.get?_insert_self store.databases name _)
  refine ⟨connected.sound, connected.connections, connected.transactions, ?_,
    connected.created, connected.records⟩
  intro other
  have told := connected.versions other
  simp only [Log.opened] at told ⊢
  by_cases same : other = name
  · rwa [if_pos same] at told ⊢
  · rw [if_neg same, if_neg same] at told
    rwa [if_neg same]

theorem Logged.begin (logged : store.Logged log) {connection : Nat} {database : String}
    (reached : store.connections.get? connection = some database) {scope : List String}
    (something : scope ≠ [])
    (present : ∀ collection ∈ scope, (store.collection? database collection).isSome = true)
    (mode : AccessMode) :
    (store.began database scope mode).Logged (log.began connection store.nextTransaction) where
  sound := logged.sound.began database something present mode
  connections := logged.connections
  transactions := by
    intro identifier active running
    simp only [Store.began, Log.began] at running ⊢
    by_cases same : identifier = store.nextTransaction
    · rw [same, SortedMap.get?_insert_self] at running
      cases running
      rw [if_pos same, logged.connections connection database reached]
    · rw [SortedMap.get?_insert_of_ne _ same] at running
      rw [if_neg same, logged.transactions identifier active running]
  versions := logged.versions
  created := logged.created
  records := logged.records

theorem record?_hold_self (name collection : String) (held : Collection) (key : Key) :
    (store.hold name collection held).record? name collection key = held.records.get? key := by
  rw [record?, collection?_hold_self, Option.bind_some]

theorem record?_hold_of_ne {name collection : String} (held : Collection)
    {other otherCollection : String}
    (differ : ¬(other = name ∧ otherCollection = collection)) (key : Key) :
    (store.hold name collection held).record? other otherCollection key =
      store.record? other otherCollection key := by
  rw [record?, record?, collection?_hold_of_ne store name collection held differ]

theorem versions_hold {name collection : String} {held : Collection}
    (present : store.collection? name collection = some held) (changed : Collection)
    (other : String) :
    ((store.hold name collection changed).databases.get? other).map Database.version =
      (store.databases.get? other).map Database.version := by
  obtain ⟨database, found, -⟩ := Option.bind_eq_some_iff.mp present
  by_cases same : other = name
  · rw [same, hold, SortedMap.get?_insert_self, Store.database, found]
    rfl
  · rw [hold, SortedMap.get?_insert_of_ne _ same]

theorem created_hold {name collection : String} {held : Collection}
    (present : store.collection? name collection = some held) (changed : Collection)
    (other otherCollection : String) :
    ((store.hold name collection changed).collection? other otherCollection).isSome =
      (store.collection? other otherCollection).isSome := by
  by_cases same : other = name ∧ otherCollection = collection
  · rw [same.1, same.2, collection?_hold_self, present]
    rfl
  · rw [collection?_hold_of_ne store name collection changed same]

theorem Logged.answer (logged : store.Logged log) {transaction : Nat} {collection : String}
    {asked : Request} {active : ActiveTransaction}
    (running : store.transactions.get? transaction = some active) {held changed : Collection}
    (present : store.collection? active.database collection = some held)
    {answer : asked.Answer} (success : held.answer collection asked = .ok (answer, changed)) :
    (store.hold active.database collection changed).Logged
      (log.answered transaction collection asked answer) := by
  have here := logged.transactions transaction active running
  have sound := logged.sound.hold present
    ((logged.sound.collections _ _ held present).answer success)
  have versions := fun name =>
    (logged.versions name).trans (versions_hold present changed name).symm
  have created : ∀ name other, (name, other) ∈ log.created ↔
      ((store.hold active.database collection changed).collection? name other).isSome = true := by
    intro name other
    rw [created_hold present]
    exact logged.created name other
  -- What is left is the records: those under the written key and all others.
  have before : ∀ key, log.record? active.database collection key = held.records.get? key := by
    intro key
    rw [logged.records, record?, present, Option.bind_some]
  have after := Collection.get?_answered success
  cases written : asked.written? answer with
  | none =>
    simp only [Log.answered, here, written] at after ⊢
    refine ⟨sound, logged.connections, logged.transactions, versions, created, ?_⟩
    intro name other key
    by_cases same : name = active.database ∧ other = collection
    · rw [same.1, same.2, record?_hold_self, after, before]
    · rw [record?_hold_of_ne changed same]
      exact logged.records name other key
  | some write =>
    obtain ⟨key, record?⟩ := write
    simp only [Log.answered, here, written] at after ⊢
    refine ⟨sound, logged.connections, logged.transactions, versions, created, ?_⟩
    intro name other otherKey
    rw [Log.record?_cons]
    by_cases same : name = active.database ∧ other = collection
    · rw [same.1, same.2, record?_hold_self, after, before]
      simp only [true_and]
    · rw [record?_hold_of_ne changed same, if_neg fun hit => same ⟨hit.1.symm, hit.2.1.symm⟩]
      exact logged.records name other otherKey

theorem StepEnds.logged {later : Store} {exchange : Exchange}
    (ends : store.StepEnds exchange later) (logged : store.Logged log) :
    later.Logged (log.note exchange) := by
  cases ends with
  | idle _ _ idle within =>
    rw [log.note_idle exchange idle]
    exact logged.within within
  | upgraded name version? upgrade target run newer grownStore grows =>
    exact logged.upgrade name newer run grownStore grows
  | reopened name version? upgrade database there => exact logged.connect there
  | begun connection scope mode database reached something present =>
    exact logged.begin reached something present mode
  | answered transaction collection asked active admitted held present answer changed success =>
    exact logged.answer admitted.running present success

/-- By induction on the history, each exchange noted in the log as the store makes it. -/
theorem run_logged (logged : store.Logged log) (commands : List Command) :
    (store.run commands).Logged ((store.exchanges commands).foldl Log.note log) := by
  induction commands generalizing store log with
  | nil => exact logged
  | cons command rest ih => exact ih ((store.step_ends command).logged logged)

theorem reachable_logged (commands : List Command) :
    (empty.run commands).Logged (.of (empty.exchanges commands)) :=
  run_logged logged_empty commands

end Steps

/-- Where a reading through a transaction is carried out. -/
structure Reads (store : Store) (transaction : Nat) (collection : String) (asked : Request)
    (active : ActiveTransaction) : Prop where
  admitted : store.Admitted transaction collection asked active
  calm : .request asked.kind ∉ store.faults

theorem request_ok_iff (store : Store) (transaction : Nat) (collection : String)
    (asked : Request) (answer : asked.Answer) :
    (store.request transaction collection asked).1 = .ok answer ↔
      ∃ active held changed, store.Reads transaction collection asked active ∧
        store.collection? active.database collection = some held ∧
        held.answer collection asked = .ok (answer, changed) := by
  have ends := request_ends store transaction collection asked
  generalize store.request transaction collection asked = result at ends
  constructor
  · intro told
    cases ends with
    | finished | uncovered | readOnly | injected | missing | rejected => cases told
    | answered active admitted calm held present answer changed success =>
      cases told
      exact ⟨active, held, changed, ⟨admitted, calm⟩, present, success⟩
  · rintro ⟨active, held, changed, ⟨admitted, calm⟩, present, success⟩
    cases ends with
    | finished absent => cases absent.symm.trans admitted.running
    | uncovered other running outside =>
      cases running.symm.trans admitted.running
      exact absurd admitted.covered outside
    | readOnly other running covered writes mode =>
      cases running.symm.trans admitted.running
      exact absurd ⟨writes, mode⟩ admitted.allowed
    | injected other also pending => exact absurd pending calm
    | missing other also quiet absent =>
      cases also.running.symm.trans admitted.running
      cases absent.symm.trans present
    | rejected other also quiet found there cause refusal =>
      cases also.running.symm.trans admitted.running
      cases there.symm.trans present
      cases refusal.symm.trans success
    | answered other also quiet found there given left succeeded =>
      cases also.running.symm.trans admitted.running
      cases there.symm.trans present
      cases succeeded.symm.trans success
      rfl

/-- A store is read as a log tells: under a key stands what was written there
last, all records of a collection come in the order of their keys, and a snapshot
lists every collection that was created. -/
structure ReadsAs (store : Store) (log : Log) : Prop where
  transactions : ∀ transaction active, store.transactions.get? transaction = some active →
    log.transactions transaction = some active.database
  get : ∀ transaction collection key found,
    (store.request transaction collection (.get key)).1 = .ok found ↔
      ∃ active, store.Reads transaction collection (.get key) active ∧
        found = log.record? active.database collection key
  getAll : ∀ transaction collection rows,
    (store.request transaction collection .getAll).1 = .ok rows ↔
      ∃ active entries, store.Reads transaction collection .getAll active ∧
        log.Lists active.database collection entries ∧ rows = entries.map Prod.snd
  snapshot : ∀ name,
    (log.versions name = none ∧ store.snapshot? name = none) ∨
      ∃ version tables, log.versions name = some version ∧ log.Tables name tables ∧
        store.snapshot? name = some (Log.report name version tables)

section Readings

variable {store : Store} {log : Log} (logged : store.Logged log)

include logged

theorem Logged.record?_eq {name collection : String} {held : Collection}
    (present : store.collection? name collection = some held) (key : Key) :
    log.record? name collection key = held.records.get? key := by
  rw [logged.records, record?, present, Option.bind_some]

theorem Logged.lists {name collection : String} {held : Collection}
    (present : store.collection? name collection = some held) :
    log.Lists name collection held.records.entries where
  ascending := held.records.ascending
  exact := by
    intro key record
    rw [logged.record?_eq present]
    exact (SortedMap.get?_eq_some_iff held.records key record).symm
  carried := by
    rintro ⟨key, record⟩ member
    have found := (SortedMap.get?_eq_some_iff held.records key record).mpr member
    simp only [Record.id?, (logged.sound.collections _ _ held present).keyed key record found]
    rfl

theorem Logged.get (transaction : Nat) (collection : String) (key : Key)
    (found : Option Record) :
    (store.request transaction collection (.get key)).1 = .ok found ↔
      ∃ active, store.Reads transaction collection (.get key) active ∧
        found = log.record? active.database collection key := by
  rw [request_ok_iff]
  constructor
  · rintro ⟨active, held, changed, reads, present, success⟩
    cases success
    exact ⟨active, reads, (logged.record?_eq present key).symm⟩
  · rintro ⟨active, reads, same⟩
    have covered := (logged.sound.transactions _ _ reads.admitted.running).2 _
      reads.admitted.covered
    obtain ⟨held, present⟩ := Option.isSome_iff_exists.mp covered
    rw [logged.record?_eq present] at same
    exact ⟨active, held, held, reads, present, by rw [same]; rfl⟩

theorem Logged.getAll (transaction : Nat) (collection : String) (rows : List Record) :
    (store.request transaction collection .getAll).1 = .ok rows ↔
      ∃ active entries, store.Reads transaction collection .getAll active ∧
        log.Lists active.database collection entries ∧ rows = entries.map Prod.snd := by
  rw [request_ok_iff]
  constructor
  · rintro ⟨active, held, changed, reads, present, success⟩
    cases success
    exact ⟨active, held.records.entries, reads, logged.lists present, rfl⟩
  · rintro ⟨active, entries, reads, lists, same⟩
    have covered := (logged.sound.transactions _ _ reads.admitted.running).2 _
      reads.admitted.covered
    obtain ⟨held, present⟩ := Option.isSome_iff_exists.mp covered
    -- Two lists in the order of their keys with the same members are one.
    have whole : held.records = ⟨entries, lists.ascending⟩ := by
      apply SortedMap.ext_get?
      intro key
      apply Option.ext
      intro record
      rw [SortedMap.get?_eq_some_iff ⟨entries, lists.ascending⟩, lists.exact,
        logged.record?_eq present]
    refine ⟨active, held, held, reads, present, ?_⟩
    rw [same]
    exact congrArg (fun records : SortedMap Key Record => Except.ok (records.items, held)) whole

theorem Logged.snapshot (name : String) :
    (log.versions name = none ∧ store.snapshot? name = none) ∨
      ∃ version tables, log.versions name = some version ∧ log.Tables name tables ∧
        store.snapshot? name = some (Log.report name version tables) := by
  cases found : store.databases.get? name with
  | none =>
    refine .inl ⟨?_, ?_⟩
    · rw [logged.versions, found]
      rfl
    · rw [snapshot?, found]
      rfl
  | some database =>
    have inside : ∀ collection, store.collection? name collection =
        database.collections.get? collection := fun collection => by
      rw [collection?, found, Option.bind_some]
    refine .inr ⟨database.version,
      database.collections.entries.map fun entry => (entry.1, entry.2.records.entries), ?_, ?_, ?_⟩
    · rw [logged.versions, found]
      rfl
    · constructor
      · exact List.pairwise_map.mpr database.collections.ascending
      · intro collection
        rw [logged.created, inside, ← SortedMap.contains, ← SortedMap.mem_keys_iff,
          List.map_map]
        exact Iff.rfl
      · intro table member
        obtain ⟨⟨collection, held⟩, there, rfl⟩ := List.mem_map.mp member
        apply logged.lists
        rw [inside]
        exact (SortedMap.get?_eq_some_iff database.collections collection held).mpr there
    · rw [snapshot?, found]
      simp only [Log.report, Option.map_some, List.map_map, SortedMap.items]
      rfl

theorem Logged.readsAs : store.ReadsAs log where
  transactions := logged.transactions
  get := logged.get
  getAll := logged.getAll
  snapshot := logged.snapshot

theorem Logged.snapshot?_eq_none_iff (name : String) :
    store.snapshot? name = none ↔ log.versions name = none := by
  rw [snapshot?, logged.versions, Option.map_eq_none_iff, Option.map_eq_none_iff]

end Readings

/-- After every history a store is read as its log tells. It has a snapshot exactly
of the databases that were opened, and endings change nothing that is read. -/
theorem reads_as_its_log (commands : List Command) :
    (empty.run commands).ReadsAs (.of (empty.exchanges commands)) ∧
      (∀ name, (empty.run commands).snapshot? name = none ↔
        ∀ exchange ∈ empty.exchanges commands, exchange.opens name = false) ∧
      (∀ transaction, ((empty.run commands).step (.commit transaction)).2.ReadsAs
        (.of (empty.exchanges commands))) ∧
      (∀ transaction, ((empty.run commands).step (.abort transaction)).2.ReadsAs
        (.of (empty.exchanges commands))) ∧
      ∀ connection, ((empty.run commands).step (.close connection)).2.ReadsAs
        (.of (empty.exchanges commands)) := by
  have logged := reachable_logged commands
  have next : ∀ command, ((empty.run commands).step command).2.Logged
      ((Log.of (empty.exchanges commands)).note
        ⟨command, ((empty.run commands).step command).1⟩) :=
    fun command => ((empty.run commands).step_ends command).logged logged
  refine ⟨logged.readsAs, ?_, ?_, ?_, ?_⟩
  · intro name
    rw [logged.snapshot?_eq_none_iff, Log.versions_eq_none_iff]
  -- No ending is noted in the log.
  · exact fun transaction => (next (.commit transaction)).readsAs
  · exact fun transaction => (next (.abort transaction)).readsAs
  · exact fun connection => (next (.close connection)).readsAs

end Store

end RecordSql
