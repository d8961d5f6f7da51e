import RecordSql.Proofs.Handle.Holdings
import RecordSql.Proofs.Store.Schemas

/-!
A connection that tells all there is. Only opening a database changes its version or
adds a collection. As long as no other handle opens it, what the connection of a
handle lists is therefore not only true but complete.
-/

namespace RecordSql

theorem Command.OpensOnly.leaves {name other : String} {command : Command}
    (own : command.OpensOnly name) (differ : other ≠ name) : command.Leaves other := by
  rintro version? upgrade rfl
  exact differ own

/-- A connection that tells the version of its database and all of its collections. -/
structure Connection.Mirrors (connection : Connection) (name : String) (store : Store) :
    Prop where
  version : connection.version = (store.database name).version
  positive : 0 < connection.version
  lists : ∀ collection, collection ∈ connection.collections ↔
    (store.collection? name collection).isSome = true

theorem Connection.Mirrors.step {connection : Connection} {name : String} {store : Store}
    (mirrors : connection.Mirrors name store) {command : Command}
    (leaves : command.Leaves name) : connection.Mirrors name (store.step command).2 where
  version := by
    rw [(store.step_ends command).version_eq leaves]
    exact mirrors.version
  positive := mirrors.positive
  lists := by
    intro collection
    rw [(store.step_ends command).collection_isSome_eq leaves]
    exact mirrors.lists collection

namespace Handle

def Mirrors (handle : Handle) (store : Store) : Prop :=
  ∀ connection, handle.state = .ready connection →
    connection.Mirrors handle.options.name store

variable {handle later other : Handle} {journal after : Journal}

/-- The version of a database that was opened is never 0. -/
theorem openConnection_mirrors {version? : Option UInt32} {names : List String}
    {connection : Connection} {after : Handle × Journal}
    (success : handle.openConnection version? names journal = (.ok connection, after)) :
    connection.Mirrors handle.options.name after.2.store := by
  have facts := openConnection_ok success
  cases openConnection_ended success with
  | upgraded after calm positive newer grown grows store =>
    rw [store, grows] at facts ⊢
    refine ⟨rfl, ?_, facts.lists⟩
    change 0 < ((journal.store.grown handle.options.name _ _).database handle.options.name).version
    rw [Store.database_grown_self]
    exact UInt32.lt_of_le_of_lt UInt32.zero_le newer
  | reopened later calm positive same store =>
    rw [store] at facts ⊢
    refine ⟨rfl, ?_, facts.lists⟩
    change 0 < (journal.store.database handle.options.name).version
    rw [← same]
    exact Store.target_pos journal.store handle.options.name positive

/-- What a handle does reaches the store by commands that open its own database. -/
theorem Step.keeps {Kept : Store → Prop} (step : Step (handle, journal) (later, after))
    (keeps : ∀ store command, command.OpensOnly handle.options.name → Kept store →
      Kept (store.step command).2) (kept : Kept journal.store) : Kept after.store := by
  generalize reached : (later, after) = target at step
  cases step with
  | opened unsettled success =>
    cases reached
    rw [(openConnection_exchange success).1]
    exact keeps _ _ rfl kept
  | refused unsettled failure =>
    cases reached
    rw [(openConnection_exchange failure).1]
    exact keeps _ _ rfl kept
  | closed ready =>
    cases reached
    exact keeps _ (.close _) trivial kept
  | @used _ _ command use =>
    cases reached
    refine keeps _ _ ?_ kept
    cases command with
    | openDatabase => cases use
    | _ => trivial
  | gaveUp | noted | numbered =>
    cases reached
    exact kept

/-- By the kind of step: a connection is told everything when it is opened. -/
theorem Step.mirrors (step : Step (handle, journal) (later, after))
    (mirrors : handle.Mirrors journal.store) : later.Mirrors after.store := by
  have options := step.options
  generalize reached : (later, after) = target at step
  cases step with
  | @opened _ _ unsettled version? names connection result success =>
    cases reached
    intro other ready
    cases (opened_ready unsettled success).symm.trans ready
    rw [options]
    exact openConnection_mirrors success
  | @refused _ _ unsettled version? names cause result failure =>
    cases reached
    have still := handle.openConnection_unsettled unsettled version? names journal
    rw [failure] at still
    exact fun other ready => absurd ready (not_ready_of_unsettled still other)
  | gaveUp unsettled usable =>
    cases reached
    intro other ready
    cases (errored_of_failed unsettled _).symm.trans ready
  | closed ready =>
    cases reached
    exact fun other reopened =>
      absurd reopened (not_ready_of_unsettled (reopening_unsettled ready) other)
  | @used _ _ command use =>
    cases reached
    intro connection ready
    refine (mirrors connection ready).step ?_
    rintro version? upgrade rfl
    cases use
  | noted | numbered =>
    cases reached
    exact mirrors

section Path

variable {start target : Handle × Journal} (steps : Steps start target)

include steps

theorem Steps.keeps (Kept : Store → Prop)
    (keeps : ∀ store command, command.OpensOnly start.1.options.name → Kept store →
      Kept (store.step command).2) (kept : Kept start.2.store) : Kept target.2.store := by
  induction steps with
  | refl => exact kept
  | @tail middle last before step ih =>
    have options := Steps.options before
    apply Step.keeps step _ ih
    rw [options]
    exact keeps

theorem Steps.mirrors (mirrors : start.1.Mirrors start.2.store) :
    target.1.Mirrors target.2.store := by
  induction steps with
  | refl => exact mirrors
  | tail _ last ih => exact Step.mirrors last ih

/-- Nothing that a handle does is seen on another database. -/
theorem Steps.mirrors_elsewhere (mirrors : other.Mirrors start.2.store)
    (elsewhere : other.options.name ≠ start.1.options.name) :
    other.Mirrors target.2.store := by
  apply Steps.keeps steps _ _ mirrors
  intro store command own held connection ready
  exact (held connection ready).step (own.leaves elsewhere)

end Path

end Handle

end RecordSql
