import RecordSql.Proofs.Handle.Knowledge
import RecordSql.Proofs.Store.Identifiers

/-!
Handles do not get into each other's way. A handle closes no connection but its
own, and what it opens gets an identifier that nobody has. So whatever handles do
one after another, each of them stays attached to its database, at a version that
is not newer than the stored one.
-/

namespace RecordSql

namespace Store

/-- A later store has given out more identifiers and has newer versions. -/
structure Onward (store later : Store) : Prop where
  identifiers : store.nextConnection ≤ later.nextConnection
  versions : ∀ name, (store.database name).version ≤ (later.database name).version

theorem Onward.refl (store : Store) : store.Onward store :=
  ⟨Nat.le_refl _, fun _ => UInt32.le_refl _⟩

theorem Onward.trans {store later last : Store} (first : store.Onward later)
    (second : later.Onward last) : store.Onward last :=
  ⟨Nat.le_trans first.identifiers second.identifiers,
    fun name => UInt32.le_trans (first.versions name) (second.versions name)⟩

theorem step_onward (store : Store) (command : Command) :
    store.Onward (store.step command).2 where
  identifiers := by
    have registers := store.step_registers command
    generalize (store.step command).2 = later at registers
    cases registers with
    | same _ _ _ next => exact Nat.le_of_eq next.symm
    | opened _ _ _ _ _ next => exact next ▸ le_following store.nextConnection
    | closed => exact Nat.le_refl _
  versions := (store.step_ends command).version_le

end Store

/-- A connection that is registered, as far as identifiers have sufficed, and whose
version is not newer than the stored one. -/
structure Connection.Attached (connection : Connection) (name : String) (store : Store) :
    Prop where
  older : connection.version ≤ (store.database name).version
  registered : store.nextConnection < Store.lastIdentifier →
    connection.identifier < store.nextConnection ∧
      store.connections.get? connection.identifier = some name

theorem Connection.Attached.step {connection : Connection} {name : String} {store : Store}
    (attached : connection.Attached name store) {command : Command}
    (spared : command ≠ .close connection.identifier) :
    connection.Attached name (store.step command).2 where
  older := UInt32.le_trans attached.older ((store.step_onward command).versions name)
  registered := by
    intro left
    have onward := (store.step_onward command).identifiers
    obtain ⟨issued, reached⟩ := attached.registered (Nat.lt_of_le_of_lt onward left)
    exact ⟨Nat.lt_of_lt_of_le issued onward, (store.step_connection_eq spared issued).trans reached⟩

/-- Once identifiers are used up only the versions are left to compare. -/
theorem Connection.Attached.exhausted {connection : Connection} {name : String}
    {store later : Store} (attached : connection.Attached name store)
    (onward : store.Onward later) (used : ¬later.nextConnection < Store.lastIdentifier) :
    connection.Attached name later :=
  ⟨UInt32.le_trans attached.older (onward.versions name), fun left => absurd left used⟩

namespace Handle

/-- A handle has worked on a store: connections that are not its own stay attached,
and its own one is still the same or has an identifier that was not given out. -/
structure Moves (handle : Handle) (store : Store) (later : Handle) (after : Store) : Prop where
  options : later.options = handle.options
  onward : store.Onward after
  spares : ∀ (connection : Connection) (name : String),
    (∀ own, handle.state = .ready own → own.identifier ≠ connection.identifier) →
    connection.Attached name store → connection.Attached name after
  own : ∀ connection, later.state = .ready connection →
    (handle.state = .ready connection ∧
      ∀ name, connection.Attached name store → connection.Attached name after) ∨
    (store.nextConnection ≤ connection.identifier ∧
      connection.Attached handle.options.name after)

variable {handle : Handle} {journal : Journal}

theorem Moves.refl (handle : Handle) (store : Store) : handle.Moves store handle store where
  options := rfl
  onward := .refl store
  spares := fun _ _ _ attached => attached
  own := fun _ ready => .inl ⟨ready, fun _ attached => attached⟩

theorem Moves.trans {middle later : Handle} {store between after : Store}
    (first : handle.Moves store middle between) (second : middle.Moves between later after) :
    handle.Moves store later after where
  options := second.options.trans first.options
  onward := first.onward.trans second.onward
  spares := by
    intro connection name foreign attached
    by_cases left : after.nextConnection < Store.lastIdentifier
    · refine second.spares connection name ?_ (first.spares connection name foreign attached)
      -- What the handle has in between is what it had, or newer than this connection.
      intro own ready
      rcases first.own own ready with ⟨before, -⟩ | ⟨new, -⟩
      · exact foreign own before
      · have issued := (attached.registered (Nat.lt_of_le_of_lt
          (first.onward.trans second.onward).identifiers left)).1
        exact Nat.ne_of_gt (Nat.lt_of_lt_of_le issued new)
    · exact attached.exhausted (first.onward.trans second.onward) left
  own := by
    intro connection ready
    rcases second.own connection ready with ⟨between, kept⟩ | ⟨new, attached⟩
    · rcases first.own connection between with ⟨before, held⟩ | ⟨new, attached⟩
      · exact .inl ⟨before, fun name attached => kept name (held name attached)⟩
      · exact .inr ⟨new, kept _ attached⟩
    · rw [first.options] at attached
      exact .inr ⟨Nat.le_trans first.onward.identifiers new, attached⟩

theorem Moves.step (handle : Handle) (store : Store) {command : Command}
    (spared : ∀ identifier, command ≠ .close identifier) :
    handle.Moves store handle (store.step command).2 where
  options := rfl
  onward := store.step_onward command
  spares := fun _ _ _ attached => attached.step (spared _)
  own := fun _ ready => .inl ⟨ready, fun _ attached => attached.step (spared _)⟩

theorem Moves.move (handle : Handle) (store : Store) {event : HandleEvent}
    (quiet : ∀ connection, event ≠ .opened connection) :
    handle.Moves store (handle.move event) store where
  options := rfl
  onward := .refl store
  spares := fun _ _ _ attached => attached
  own := by
    intro connection ready
    rcases ready_of_move ready with told | before
    · exact absurd told (quiet connection)
    · exact .inl ⟨before, fun _ attached => attached⟩

theorem Moves.close {connection : Connection} (ready : handle.state = .ready connection)
    (store : Store) :
    handle.Moves store (handle.move .reopening)
      (store.step (.close connection.identifier)).2 where
  options := rfl
  onward := store.step_onward _
  spares := by
    intro other name foreign attached
    apply attached.step
    intro same
    exact foreign connection ready (Command.close.inj same)
  own := by
    intro other reopened
    simp only [Handle.move, ready] at reopened
    cases reopened

theorem openConnection_moves (handle : Handle) (version? : Option UInt32) (names : List String)
    (journal : Journal) :
    handle.Moves journal.store (handle.openConnection version? names journal).2.1
      (handle.openConnection version? names journal).2.2.store := by
  have opens : handle.Moves journal.store handle (journal.store.step (.openDatabase
      handle.options.name version? fun _ _ => .createMissing names .finish)).2 :=
    .step handle journal.store (by rintro identifier ⟨⟩)
  simp only [openConnection]
  split
  · exact opens.trans (.move handle _ (by rintro connection ⟨⟩))
  · exact opens

/-- What is opened gets the next identifier and the stored version. -/
theorem openConnection_attached {version? : Option UInt32} {names : List String}
    {connection : Connection} {after : Handle × Journal}
    (success : handle.openConnection version? names journal = (.ok connection, after)) :
    journal.store.nextConnection ≤ connection.identifier ∧
      connection.Attached handle.options.name after.2.store := by
  have connected : ∀ store : Store,
      (store.connect handle.options.name).2.nextConnection < Store.lastIdentifier →
      store.nextConnection < (store.connect handle.options.name).2.nextConnection := by
    intro store left
    exact Store.lt_following (Nat.lt_of_le_of_lt (Store.le_following _) left)
  cases openConnection_ended success with
  | upgraded after calm positive newer grown grows store =>
    rw [store, grows]
    exact ⟨Nat.le_refl _, UInt32.le_refl _,
      fun left => ⟨connected _ left, SortedMap.get?_insert_self _ _ _⟩⟩
  | reopened later calm positive same store =>
    rw [store]
    exact ⟨Nat.le_refl _, UInt32.le_refl _,
      fun left => ⟨connected _ left, SortedMap.get?_insert_self _ _ _⟩⟩

theorem opened_moves {version? : Option UInt32} {names : List String}
    {connection : Connection} {after : Handle × Journal}
    (success : handle.openConnection version? names journal = (.ok connection, after)) :
    handle.Moves journal.store (after.1.move (.opened connection)) after.2.store := by
  have moves := handle.openConnection_moves version? names journal
  rw [success] at moves
  refine ⟨moves.options, moves.onward, moves.spares, ?_⟩
  intro other ready
  rcases ready_of_move ready with told | before
  · cases told
    exact .inr (openConnection_attached success)
  · exact moves.own other before

theorem failed_moves {version? : Option UInt32} {names : List String} {cause : StoreError}
    {after : Handle × Journal}
    (failed : handle.openConnection version? names journal = (.error cause, after)) :
    handle.Moves journal.store (after.1.move (.failed (.openFailed cause))) after.2.store := by
  have moves := handle.openConnection_moves version? names journal
  rw [failed] at moves
  exact moves.trans (.move _ _ (by rintro connection ⟨⟩))

theorem settle_moves (handle : Handle) (journal : Journal) :
    handle.Moves journal.store (handle.settle journal).1 (handle.settle journal).2.store := by
  rw [settle]
  split
  · exact .refl handle journal.store
  · rw [openFirst]
    cases Version.read handle.options.version with
    | error fault => exact .move handle _ (by rintro connection ⟨⟩)
    | ok version? =>
      dsimp only
      generalize opened : handle.openConnection version? handle.options.firstCollections
        journal = reply
      obtain ⟨cause | connection, after⟩ := reply
      · exact failed_moves opened
      · exact opened_moves opened

theorem fallBack_moves (handle : Handle) (journal : Journal) :
    handle.Moves journal.store (handle.fallBack journal).1 (handle.fallBack journal).2.store := by
  rw [fallBack]
  generalize opened : handle.openConnection none [] journal = reply
  obtain ⟨cause | connection, after⟩ := reply
  · exact failed_moves opened
  · exact opened_moves opened

theorem grow_moves {connection : Connection} (ready : handle.state = .ready connection)
    (names : List String) (journal : Journal) :
    handle.Moves journal.store (handle.grow connection names journal).2.1
      (handle.grow connection names journal).2.2.store := by
  have closes : handle.Moves journal.store (handle.move .reopening)
      (closed connection journal).store := .close ready journal.store
  have moves := (handle.move .reopening).openConnection_moves (some (connection.version + 1))
    names (closed connection journal)
  have grows := handle.grow_ends connection names journal
  generalize handle.grow connection names journal = done at grows ⊢
  cases grows with
  | exhausted => exact .refl handle journal.store
  | refused cause after room opened =>
    rw [opened] at moves
    exact (closes.trans moves).trans (after.1.fallBack_moves after.2)
  | grown covering after room opened => exact closes.trans (opened_moves opened)

theorem cover_moves (handle : Handle) (named : List String) (journal : Journal) :
    handle.Moves journal.store (handle.cover named journal).2.1
      (handle.cover named journal).2.2.store := by
  rw [cover]
  cases state : handle.state with
  | opening | upgrading | errored =>
    simp only [Handle.connection, state]
    exact .refl handle journal.store
  | ready connection =>
    simp only [Handle.connection, state]
    split
    · exact .refl handle journal.store
    · exact grow_moves state _ journal

theorem beginTransaction_moves (handle : Handle) (named : List String) (journal : Journal) :
    handle.Moves journal.store (handle.beginTransaction named journal).2.1
      (handle.beginTransaction named journal).2.2.store := by
  have covered := handle.cover_moves named journal
  rw [beginTransaction]
  generalize handle.cover named journal = reply at covered ⊢
  obtain ⟨cause | connection, after⟩ := reply
  · exact covered
  · have begins : after.1.Moves after.2.store after.1 (after.2.store.step
        (.beginTransaction connection.identifier (after.1.scope connection) .readWrite)).2 :=
      .step after.1 after.2.store (by rintro identifier ⟨⟩)
    exact covered.trans begins

end Handle

end RecordSql
