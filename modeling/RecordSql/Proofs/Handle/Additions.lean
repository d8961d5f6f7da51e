import RecordSql.Proofs.Handle.Knowledge
import RecordSql.Proofs.Store.Schemas

/-!
Which collections a handle adds. Whatever it does to begin a transaction, the only
collections that are new in the store afterwards are ones that the transaction needs, and
they are in the handle's own database.
-/

namespace RecordSql

namespace Store

variable {store middle later : Store} {name : String} {names : List String}

/-- The only collections that are new are of these names, in the database of this name. -/
def Adds (store : Store) (name : String) (names : List String) (later : Store) : Prop :=
  ∀ database collection, (later.collection? database collection).isSome = true →
    (store.collection? database collection).isSome = true ∨
      database = name ∧ collection ∈ names

theorem Adds.refl (store : Store) (name : String) (names : List String) :
    store.Adds name names store := fun _ _ => .inl

theorem Adds.trans (first : store.Adds name names middle) (second : middle.Adds name names later) :
    store.Adds name names later := by
  intro database collection present
  rcases second database collection present with before | added
  · exact first database collection before
  · exact .inr added

theorem Adds.mono (adds : store.Adds name names later) {more : List String}
    (within : ∀ collection ∈ names, collection ∈ more) : store.Adds name more later :=
  fun database collection present =>
    (adds database collection present).imp_right fun ⟨here, member⟩ => ⟨here, within _ member⟩

/-- A command that opens nothing adds nothing. -/
theorem adds_step (command : Command) (opensNothing : ∀ name, command.Leaves name)
    (store : Store) (name : String) (names : List String) :
    store.Adds name names (store.step command).2 := by
  intro database collection present
  rw [(store.step_ends command).collection_isSome_eq (opensNothing database)] at present
  exact .inl present

theorem open_adds (store : Store) (name : String) (version? : Option UInt32)
    (names : List String) : store.Adds name names
      (store.openDatabase name version? fun _ _ => .createMissing names .finish).2 := by
  intro database collection present
  have ends := open_ends store name version? fun _ _ => .createMissing names .finish
  generalize store.openDatabase name version? (fun _ _ => .createMissing names .finish) = result
    at ends present
  cases ends with
  | injected | zero | outdated | aborted | reopened => exact .inl present
  | upgraded calm positive newer success grownStore grows =>
    rw [collection?_connect, grows] at present
    by_cases here : database = name
    · subst here
      rw [collection?_grown_self] at present
      cases before : store.collection? database collection with
      | some held => exact .inl rfl
      | none =>
        rw [before, Option.none_or] at present
        split at present
        · next created =>
          exact .inr ⟨rfl, (Handle.created_of_absent version? names before).mp created⟩
        · cases present
    · rw [collection?_grown_of_ne store name _ _ here] at present
      exact .inl present

end Store

namespace Handle

open Store (Adds)

variable (handle : Handle) (journal : Journal)

theorem openConnection_adds (version? : Option UInt32) (names : List String) :
    journal.store.Adds handle.options.name names
      (handle.openConnection version? names journal).2.2.store :=
  journal.store.open_adds handle.options.name version? names

theorem fallBack_adds (names : List String) :
    journal.store.Adds handle.options.name names (handle.fallBack journal).2.store := by
  have adds : journal.store.Adds handle.options.name names _ :=
    (handle.openConnection_adds journal none []).mono (by rintro collection ⟨⟩)
  rw [fallBack]
  generalize handle.openConnection none [] journal = reply at adds ⊢
  obtain ⟨cause | connection, after⟩ := reply
  · exact adds
  · exact adds

theorem grow_adds (connection : Connection) (names : List String) :
    journal.store.Adds handle.options.name names
      (handle.grow connection names journal).2.2.store := by
  have closes : journal.store.Adds handle.options.name names (closed connection journal).store :=
    Store.adds_step (.close connection.identifier) (by rintro name version? upgrade ⟨⟩) _ _ _
  have options := ((handle.move .reopening).openConnection_continues
    (some (connection.version + 1)) names (closed connection journal)).options
  have adds := (handle.move .reopening).openConnection_adds (closed connection journal)
    (some (connection.version + 1)) names
  have grows := handle.grow_ends connection names journal
  generalize handle.grow connection names journal = done at grows ⊢
  cases grows with
  | exhausted => exact .refl journal.store _ names
  | refused cause after room opened =>
    -- Closed, refused, and opened again with nothing to create: three steps in a row.
    rw [opened] at options adds
    have falls := after.1.fallBack_adds after.2 names
    rw [options] at falls
    exact (closes.trans adds).trans falls
  | grown covering after room opened =>
    rw [opened] at adds
    exact closes.trans adds

theorem cover_adds (named : List String) : journal.store.Adds handle.options.name
    (handle.needed named) (handle.cover named journal).2.2.store := by
  rw [cover]
  cases handle.connection with
  | error cause => exact .refl journal.store _ _
  | ok connection =>
    have within : ∀ collection ∈ handle.missing connection named,
        collection ∈ handle.needed named := fun _ member => (List.mem_filter.mp member).1
    dsimp only
    cases missing : handle.missing connection named with
    | nil => exact .refl journal.store _ _
    | cons first rest =>
      rw [missing] at within
      exact (handle.grow_adds journal connection (first :: rest)).mono within

theorem beginTransaction_adds (named : List String) : journal.store.Adds handle.options.name
    (handle.needed named) (handle.beginTransaction named journal).2.2.store := by
  have covers := handle.cover_adds journal named
  rw [beginTransaction]
  generalize handle.cover named journal = reply at covers ⊢
  obtain ⟨cause | connection, after⟩ := reply
  · exact covers
  · exact covers.trans (Store.adds_step
      (.beginTransaction connection.identifier (after.1.scope connection) .readWrite)
      (by rintro name version? upgrade ⟨⟩) _ _ _)

end Handle

end RecordSql
