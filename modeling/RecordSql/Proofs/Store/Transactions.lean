import RecordSql.Proofs.Store.Request

/-!
How a transaction of a store begins and how its commit ends. It begins only over
collections that are there, and nothing but its own begin, commit or abort
touches it. Neither beginning nor finishing a transaction changes a database.
-/

namespace RecordSql.Store

/-- The store in which a transaction over some collections has begun. -/
def began (store : Store) (database : String) (scope : List String) (mode : AccessMode) :
    Store :=
  { store with
    transactions := store.transactions.insert store.nextTransaction { database, scope, mode }
    nextTransaction := following store.nextTransaction }

inductive BeginEnds (store : Store) (connection : Nat) (scope : List String)
    (mode : AccessMode) : Except StoreError Nat × Store → Prop where
  | closed (absent : store.connections.get? connection = none) :
      BeginEnds store connection scope mode (.error .connectionClosed, store)
  | empty (database : String) (reached : store.connections.get? connection = some database)
      (nothing : scope = []) :
      BeginEnds store connection scope mode (.error .emptyScope, store)
  | missing (database : String) (reached : store.connections.get? connection = some database)
      (collection : String) (member : collection ∈ scope)
      (absent : store.collection? database collection = none) :
      BeginEnds store connection scope mode (.error (.collectionMissing collection), store)
  | begun (database : String) (reached : store.connections.get? connection = some database)
      (something : scope ≠ [])
      (present : ∀ collection ∈ scope, (store.collection? database collection).isSome = true) :
      BeginEnds store connection scope mode
        (.ok store.nextTransaction, store.began database scope mode)

theorem begin_ends (store : Store) (connection : Nat) (scope : List String)
    (mode : AccessMode) :
    BeginEnds store connection scope mode (store.beginTransaction connection scope mode) := by
  simp only [beginTransaction]
  cases reached : store.connections.get? connection with
  | none => exact .closed reached
  | some database =>
    dsimp only
    by_cases nothing : scope = []
    · rw [if_pos (by simp [nothing])]
      exact .empty database reached nothing
    · rw [if_neg (by simpa using nothing)]
      cases absent : scope.find? fun name =>
          !(store.database database).collections.contains name with
      | some name =>
        have unknown : (store.database database).collections.contains name = false := by
          simpa using List.find?_some absent
        refine .missing database reached name (List.mem_of_find?_eq_some absent) ?_
        rw [collection?_eq_database]
        exact (SortedMap.contains_eq_false_iff _ _).mp unknown
      | none =>
        refine .begun database reached nothing fun collection member => ?_
        have there := List.find?_eq_none.mp absent collection member
        rw [collection?_eq_database]
        simpa [SortedMap.contains, Option.isSome_iff_ne_none] using there

theorem begin_databases (store : Store) (connection : Nat) (scope : List String)
    (mode : AccessMode) :
    (store.beginTransaction connection scope mode).2.databases = store.databases := by
  have ends := begin_ends store connection scope mode
  generalize store.beginTransaction connection scope mode = result at ends
  cases ends with
  | closed | empty | missing | begun => rfl

/-- What is known of a transaction that has begun. -/
theorem begin_ok {store next : Store} {connection transaction : Nat} {scope : List String}
    {mode : AccessMode}
    (success : store.beginTransaction connection scope mode = (.ok transaction, next)) :
    ∃ database, store.connections.get? connection = some database ∧
      next.transactions.get? transaction = some ⟨database, scope, mode⟩ ∧
      (∀ collection ∈ scope, (store.collection? database collection).isSome = true) ∧
      next.databases = store.databases := by
  have ends := begin_ends store connection scope mode
  rw [success] at ends
  cases ends with
  | begun database reached something present =>
    exact ⟨database, reached, SortedMap.get?_insert_self _ _ _, present, rfl⟩

/-- When a transaction begins. -/
theorem begin_isOk_iff (store : Store) (connection : Nat) (scope : List String)
    (mode : AccessMode) :
    (store.beginTransaction connection scope mode).1.isOk = true ↔
      ∃ database, store.connections.get? connection = some database ∧ scope ≠ [] ∧
        ∀ collection ∈ scope, (store.collection? database collection).isSome = true := by
  have ends := begin_ends store connection scope mode
  generalize store.beginTransaction connection scope mode = result at ends
  cases ends with
  | closed absent =>
    refine iff_of_false (by rintro ⟨⟩) ?_
    rintro ⟨database, reached, -⟩
    cases absent.symm.trans reached
  | empty database reached nothing =>
    refine iff_of_false (by rintro ⟨⟩) ?_
    rintro ⟨-, -, something, -⟩
    exact something nothing
  | missing database reached collection member absent =>
    refine iff_of_false (by rintro ⟨⟩) ?_
    rintro ⟨other, also, -, present⟩
    cases reached.symm.trans also
    have there := present collection member
    rw [absent] at there
    cases there
  | begun database reached something present =>
    exact iff_of_true rfl ⟨database, reached, something, present⟩

inductive CommitEnds (store : Store) (transaction : Nat) :
    Except StoreError Unit × Store → Prop where
  | finished (absent : store.transactions.get? transaction = none) :
      CommitEnds store transaction (.error .alreadyFinished, store)
  | injected (active : ActiveTransaction)
      (running : store.transactions.get? transaction = some active)
      (pending : .commit ∈ store.faults) :
      CommitEnds store transaction
        (.error (.injected .commit), (store.abort transaction).useFault .commit)
  | committed (active : ActiveTransaction)
      (running : store.transactions.get? transaction = some active)
      (calm : .commit ∉ store.faults) :
      CommitEnds store transaction (.ok (), store.abort transaction)

theorem commit_ends (store : Store) (transaction : Nat) :
    CommitEnds store transaction (store.commit transaction) := by
  simp only [commit]
  cases running : store.transactions.get? transaction with
  | none => exact .finished running
  | some active =>
    dsimp only
    by_cases pending : .commit ∈ store.faults
    · rw [takeFault?_of_mem _ _ (by exact pending)]
      exact .injected active running pending
    · rw [takeFault?_of_not_mem _ _ (by exact pending)]
      exact .committed active running pending

theorem commit_databases (store : Store) (transaction : Nat) :
    (store.commit transaction).2.databases = store.databases := by
  have ends := commit_ends store transaction
  generalize store.commit transaction = result at ends
  cases ends with
  | finished | injected | committed => rfl

theorem transactions_abort (store : Store) (transaction other : Nat) {active : ActiveTransaction}
    (running : (store.abort transaction).transactions.get? other = some active) :
    store.transactions.get? other = some active := SortedMap.get?_of_erase running

theorem connections_close (store : Store) (connection other : Nat) {name : String}
    (reached : (store.close connection).connections.get? other = some name) :
    store.connections.get? other = some name := SortedMap.get?_of_erase reached

end RecordSql.Store
