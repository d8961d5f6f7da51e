import RecordSql.Proofs.Handle.Opening

/-!
What a handle knows of its database. A connection remembers the collections that
were there when it was opened. As collections never vanish, what it remembers
stays true whatever other handles do, but it need not be all there is.
-/

namespace RecordSql

/-- The one database that a command may open. -/
def Command.OpensOnly (name : String) : Command → Prop
  | .openDatabase opened _ _ => opened = name
  | _ => True

theorem Handle.MaySend.opensOnly {name : String} {command : Command}
    (allowed : Handle.MaySend name command) : command.OpensOnly name := by
  cases command with
  | openDatabase opened version? upgrade => exact allowed
  | close | beginTransaction | request | commit | abort | inject | snapshot => trivial

namespace Store

/-- Where no other database is opened, an identifier leads nowhere else. -/
theorem step_connection (store : Store) (command : Command) {name database : String}
    {identifier : Nat} (own : command.OpensOnly name)
    (reached : (store.step command).2.connections.get? identifier = some database) :
    database = name ∨ store.connections.get? identifier = some database := by
  have registers := store.step_registers command
  generalize (store.step command).2 = later at registers reached
  cases registers with
  | same _ _ connections => exact .inr (connections ▸ reached)
  | opened other version? upgrade later connections =>
    cases own
    rw [connections] at reached
    rcases SortedMap.get?_of_insert reached with ⟨-, same⟩ | before
    · exact .inl same
    · exact .inr before
  | closed connection => exact .inr (connections_close store connection identifier reached)

end Store

/-- What a connection remembers of a database is true. -/
structure Connection.Knows (connection : Connection) (name : String) (store : Store) :
    Prop where
  reaches : ∀ database, store.connections.get? connection.identifier = some database →
    database = name
  present : ∀ collection ∈ connection.collections,
    (store.collection? name collection).isSome = true

theorem Connection.Knows.step {connection : Connection} {name : String} {store : Store}
    (knows : connection.Knows name store) (command : Command) (own : command.OpensOnly name) :
    connection.Knows name (store.step command).2 where
  reaches := by
    intro database reached
    rcases store.step_connection command own reached with same | before
    · exact same
    · exact knows.reaches database before
  present := fun collection member =>
    store.step_collection_isSome command name collection (knows.present collection member)

/-- A ready handle has a connection that knows its database. -/
def Handle.Knows (handle : Handle) (store : Store) : Prop :=
  ∀ connection, handle.state = .ready connection → connection.Knows handle.options.name store

namespace Handle

variable {handle : Handle} {journal : Journal}

theorem ready_of_move {event : HandleEvent} {connection : Connection}
    (ready : (handle.move event).state = .ready connection) :
    event = .opened connection ∨ handle.state = .ready connection := by
  simp only [move] at ready
  cases event with
  | opened other => cases state : handle.state <;> simp_all [HandleState.after]
  | upgradeNeeded | failed | reopening =>
    cases state : handle.state <;> simp_all [HandleState.after]

theorem Knows.move {store : Store} (knows : handle.Knows store) (event : HandleEvent)
    (tells : ∀ connection, event = .opened connection →
      connection.Knows handle.options.name store) : (handle.move event).Knows store := by
  intro connection ready
  rcases ready_of_move ready with told | before
  · exact tells connection told
  · exact knows connection before

theorem Knows.sends {permitted : Command → Prop} {later : Journal}
    (knows : handle.Knows journal.store) (sends : journal.Sends permitted later)
    (own : ∀ command, permitted command → command.OpensOnly handle.options.name) :
    handle.Knows later.store :=
  sends.keeps handle.Knows (fun _ command allowed held connection ready =>
    (held connection ready).step command (own command allowed)) knows

/-- A connection that was opened, with the store as the opening left it. -/
structure Opened (handle : Handle) (version? : Option UInt32) (names : List String)
    (before after : Store) (connection : Connection) : Prop where
  reaches : after.connections.get? connection.identifier = some handle.options.name
  lists : ∀ collection, collection ∈ connection.collections ↔
    (after.collection? handle.options.name collection).isSome = true
  notOlder : ¬before.target handle.options.name version? <
    (before.database handle.options.name).version
  upgraded : (before.database handle.options.name).version <
      before.target handle.options.name version? → ∀ collection,
    after.collection? handle.options.name collection =
      (before.collection? handle.options.name collection).or
        (if collection ∈ names then some .empty else none)
  reopened : before.target handle.options.name version? =
      (before.database handle.options.name).version → ∀ collection,
    after.collection? handle.options.name collection =
      before.collection? handle.options.name collection

theorem Opened.knows {version? : Option UInt32} {names : List String} {before after : Store}
    {connection : Connection}
    (opened : handle.Opened version? names before after connection) :
    connection.Knows handle.options.name after where
  reaches := by
    intro database reached
    rw [opened.reaches] at reached
    exact (Option.some.inj reached).symm
  present := fun collection member => (opened.lists collection).mp member

theorem created_of_absent {store : Store} {name : String} (version? : Option UInt32)
    (names : List String) {collection : String}
    (absent : store.collection? name collection = none) :
    collection ∈ (store.upgradeRun name version? fun _ _ =>
      .createMissing names .finish).finish.created ↔ collection ∈ names := by
  have contents := (Upgrade.createMissing_apply names
    (store.schemaOf name (store.target name version?))).2 collection
  have existing := Upgrade.apply_existing (.createMissing names .finish)
    (store.schemaOf name (store.target name version?))
  have unknown : (store.database name).collections.keys.contains collection = false := by
    rw [Store.collection?_eq_database] at absent
    have free := (SortedMap.contains_eq_false_iff _ _).mpr absent
    rw [List.contains_eq_mem]
    exact decide_eq_false fun member => by
      rw [(SortedMap.mem_keys_iff _ _).mp member] at free
      cases free
  simp only [Schema.contains, existing] at contents
  simp only [Store.schemaOf, unknown, List.contains_nil, Bool.or_self, Bool.false_or] at contents
  rw [← List.contains_iff_mem, ← List.contains_iff_mem]
  exact Bool.eq_iff_iff.mp contents

theorem connect_lists (store : Store) (name collection : String) :
    collection ∈ (store.connect name).1.collections ↔
      ((store.connect name).2.collection? name collection).isSome = true := by
  rw [Store.collection?_connect, Store.collection?_eq_database]
  exact SortedMap.mem_keys_iff _ _

theorem openConnection_ok {version? : Option UInt32} {names : List String}
    {connection : Connection} {after : Handle × Journal}
    (success : handle.openConnection version? names journal = (.ok connection, after)) :
    handle.Opened version? names journal.store after.2.store connection := by
  cases openConnection_ended success with
  | upgraded after calm positive newer grown grows store =>
    rw [store]
    refine ⟨SortedMap.get?_insert_self _ _ _, connect_lists grown _, ?_, ?_, ?_⟩
    · exact UInt32.not_lt.mpr (UInt32.le_of_lt newer)
    · intro _ collection
      rw [Store.collection?_connect, grows, Store.collection?_grown_self]
      cases absent : journal.store.collection? handle.options.name collection with
      | some held => rw [Option.some_or, Option.some_or]
      | none => simp only [created_of_absent version? names absent]
    · intro same
      rw [same] at newer
      exact absurd newer (UInt32.lt_irrefl _)
  | reopened later calm positive same store =>
    rw [store]
    refine ⟨SortedMap.get?_insert_self _ _ _, connect_lists journal.store _, ?_, ?_, ?_⟩
    · rw [same]
      exact UInt32.lt_irrefl _
    · intro newer
      rw [same] at newer
      exact absurd newer (UInt32.lt_irrefl _)
    · exact fun _ _ => rfl

theorem openConnection_knows (handle : Handle) (version? : Option UInt32)
    (names : List String) (journal : Journal) (knows : handle.Knows journal.store) :
    (handle.openConnection version? names journal).2.1.Knows
      (handle.openConnection version? names journal).2.2.store := by
  have sends := (handle.openConnection_continues version? names journal).sends
  have kept := knows.sends sends fun _ allowed => allowed.opensOnly
  generalize (handle.openConnection version? names journal).2.2 = later at kept
  simp only [openConnection]
  split
  · exact kept.move _ (by rintro connection ⟨⟩)
  · exact kept

theorem openConnection_told_knows {version? : Option UInt32} {names : List String}
    (reply : Except StoreError Connection × Handle × Journal)
    (knows : handle.Knows journal.store)
    (opened : handle.openConnection version? names journal = reply) :
    match reply.1 with
    | .ok connection => (reply.2.1.move (.opened connection)).Knows reply.2.2.store
    | .error cause => (reply.2.1.move (.failed (.openFailed cause))).Knows reply.2.2.store := by
  have kept := handle.openConnection_knows version? names journal knows
  have options := (handle.openConnection_continues version? names journal).options
  rw [opened] at kept options
  obtain ⟨result, after⟩ := reply
  cases result with
  | error cause => exact kept.move _ (by rintro connection ⟨⟩)
  | ok connection =>
    apply kept.move _
    intro other told
    cases told
    rw [options]
    exact (openConnection_ok opened).knows

theorem settle_knows (handle : Handle) (journal : Journal)
    (knows : handle.Knows journal.store) :
    (handle.settle journal).1.Knows (handle.settle journal).2.store := by
  rw [settle]
  split
  · exact knows
  · rw [openFirst]
    cases Version.read handle.options.version with
    | error fault => exact knows.move _ (by rintro connection ⟨⟩)
    | ok version? =>
      dsimp only
      generalize opened : handle.openConnection version? handle.options.firstCollections
        journal = reply
      have told := openConnection_told_knows reply knows opened
      obtain ⟨cause | connection, after⟩ := reply
      · exact told
      · exact told

theorem fallBack_knows (handle : Handle) (journal : Journal)
    (knows : handle.Knows journal.store) :
    (handle.fallBack journal).1.Knows (handle.fallBack journal).2.store := by
  rw [fallBack]
  generalize opened : handle.openConnection none [] journal = reply
  have told := openConnection_told_knows reply knows opened
  obtain ⟨cause | connection, after⟩ := reply
  · exact told
  · exact told

theorem grow_knows (handle : Handle) (connection : Connection) (names : List String)
    (journal : Journal) (knows : handle.Knows journal.store) :
    (handle.grow connection names journal).2.1.Knows
      (handle.grow connection names journal).2.2.store := by
  have closing : (handle.move .reopening).Knows (closed connection journal).store := by
    refine Knows.move ?_ _ (by rintro connection ⟨⟩)
    exact fun other ready => (knows other ready).step (.close connection.identifier) trivial
  have kept := (handle.move .reopening).openConnection_knows (some (connection.version + 1))
    names (closed connection journal) closing
  have grows := handle.grow_ends connection names journal
  generalize handle.grow connection names journal = done at grows ⊢
  cases grows with
  | exhausted => exact knows
  | refused cause after room opened =>
    rw [opened] at kept
    exact after.1.fallBack_knows after.2 kept
  | grown covering after room opened => exact openConnection_told_knows _ closing opened

theorem cover_knows (handle : Handle) (named : List String) (journal : Journal)
    (knows : handle.Knows journal.store) :
    (handle.cover named journal).2.1.Knows (handle.cover named journal).2.2.store := by
  rw [cover]
  cases handle.connection with
  | error cause => exact knows
  | ok connection =>
    dsimp only
    split
    · exact knows
    · exact handle.grow_knows connection _ journal knows

theorem beginTransaction_knows (handle : Handle) (named : List String) (journal : Journal)
    (knows : handle.Knows journal.store) :
    (handle.beginTransaction named journal).2.1.Knows
      (handle.beginTransaction named journal).2.2.store := by
  have covered := handle.cover_knows named journal knows
  rw [beginTransaction]
  generalize handle.cover named journal = reply at covered ⊢
  obtain ⟨cause | connection, after⟩ := reply
  · exact covered
  · exact fun other ready => (covered other ready).step
      (.beginTransaction connection.identifier (after.1.scope connection) .readWrite) trivial

end Handle

end RecordSql
