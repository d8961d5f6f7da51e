import RecordSql.Proofs.Handle.Knowledge

/-!
What a transaction of the store covers that a handle has begun. What is needed
and not known is created by opening the database one version higher. Where
another handle has raised the version by just one meanwhile, that open carries
out no upgrade: nothing is created, and a collection that is needed may be
overlooked.
-/

namespace RecordSql

namespace Handle

variable {handle : Handle} {journal : Journal} {named : List String}

/-- Where a collection is overlooked that is needed: it is not there, and the
version that would create it has been taken by someone else. -/
structure Overlooks (handle : Handle) (connection : Connection) (store : Store)
    (collection : String) : Prop where
  mode : handle.options.mode = .perStatement
  taken : (store.database handle.options.name).version = connection.version + 1
  absent : store.collection? handle.options.name collection = none

/-- How a handle comes by a connection that covers what is needed: it knows all
of it already, or it has opened the database again. -/
inductive Covers (handle : Handle) (connection : Connection) (named : List String)
    (journal : Journal) : Connection → Handle × Journal → Prop where
  | known (nothing : handle.missing connection named = []) :
      Covers handle connection named journal connection (handle, journal)
  | grown (covering : Connection) (reopened : Handle × Journal)
      (opened : (handle.move .reopening).openConnection (some (connection.version + 1))
        (handle.missing connection named) (closed connection journal) =
          (.ok covering, reopened)) :
      Covers handle connection named journal covering
        (reopened.1.move (.opened covering), reopened.2)

theorem cover_ok {connection covering : Connection} {after : Handle × Journal}
    (ready : handle.state = .ready connection)
    (success : handle.cover named journal = (.ok covering, after)) :
    handle.Covers connection named journal covering after := by
  have known : handle.connection = .ok connection := by simp [Handle.connection, ready]
  simp only [cover, known] at success
  cases missing : handle.missing connection named with
  | nil =>
    simp only [missing] at success
    cases success
    exact .known missing
  | cons first rest =>
    simp only [missing] at success
    rw [← missing] at success
    have grows := handle.grow_ends connection (handle.missing connection named) journal
    rw [success] at grows
    cases grows with
    | grown _ reopened room opened => exact .grown covering reopened opened

theorem beginTransaction_ok {transaction : Nat} {after : Handle × Journal}
    (success : handle.beginTransaction named journal = (.ok transaction, after)) :
    ∃ covering covered, handle.cover named journal = (.ok covering, covered) ∧
      after.1 = covered.1 ∧ covered.2.store.beginTransaction covering.identifier
        (covered.1.scope covering) .readWrite = (.ok transaction, after.2.store) := by
  simp only [beginTransaction] at success
  generalize handle.cover named journal = reply at success
  obtain ⟨cause | covering, covered⟩ := reply
  · cases success
  · refine ⟨covering, covered, rfl, ?_⟩
    simp only [Journal.send, Store.step] at success
    generalize covered.2.store.beginTransaction covering.identifier
      (covered.1.scope covering) .readWrite = answer at success
    obtain ⟨cause | begun, next⟩ := answer
    · cases success
    · cases success
      exact ⟨rfl, rfl⟩

theorem mem_missing {connection : Connection} {collection : String}
    (needs : collection ∈ handle.needed named) :
    collection ∈ handle.missing connection named ↔ collection ∉ connection.collections := by
  simp [missing, needs]

theorem known_of_missing_eq_nil {connection : Connection} {collection : String}
    (needs : collection ∈ handle.needed named)
    (nothing : handle.missing connection named = []) : collection ∈ connection.collections := by
  apply Classical.byContradiction
  intro unknown
  have missed := (mem_missing needs).mpr unknown
  rw [nothing] at missed
  cases missed

theorem mem_missing_of_absent {connection : Connection} {collection : String}
    (knows : connection.Knows handle.options.name journal.store)
    (needs : collection ∈ handle.needed named)
    (absent : journal.store.collection? handle.options.name collection = none) :
    collection ∈ handle.missing connection named := by
  apply (mem_missing needs).mpr
  intro member
  have present := knows.present collection member
  rw [absent] at present
  cases present

/-- Where the version asked for is still free the open creates what is missing;
otherwise it is the version that the database has got meanwhile. -/
theorem grown_lists_iff {connection covering : Connection} {reopened : Handle × Journal}
    {collection : String} (mode : handle.options.mode = .perStatement)
    (knows : connection.Knows handle.options.name journal.store)
    (needs : collection ∈ handle.needed named)
    (opened : (handle.move .reopening).openConnection (some (connection.version + 1))
      (handle.missing connection named) (closed connection journal) = (.ok covering, reopened)) :
    collection ∈ covering.collections ↔
      ¬handle.Overlooks connection journal.store collection := by
  have facts := openConnection_ok opened
  rw [facts.lists collection]
  by_cases newer : (journal.store.database handle.options.name).version < connection.version + 1
  · rw [facts.upgraded newer collection]
    have created : ((journal.store.collection? handle.options.name collection).or
        (if collection ∈ handle.missing connection named then some .empty else none)).isSome =
          true := by
      cases there : journal.store.collection? handle.options.name collection with
      | some held => rfl
      | none =>
        rw [if_pos (mem_missing_of_absent knows needs there)]
        rfl
    apply iff_of_true created
    intro overlooked
    rw [overlooked.taken] at newer
    exact UInt32.lt_irrefl _ newer
  · -- Nobody asks for an older version, so this one was reached by another handle
    -- and the open carries out no upgrade.
    have taken : (journal.store.database handle.options.name).version =
        connection.version + 1 :=
      UInt32.le_antisymm (UInt32.not_lt.mp facts.notOlder) (UInt32.not_lt.mp newer)
    rw [facts.reopened taken.symm collection]
    constructor
    · intro present overlooked
      have absent := overlooked.absent
      simp only [closed, Journal.send, Store.step] at present
      have same : (journal.store.close connection.identifier).collection?
          handle.options.name collection =
          journal.store.collection? handle.options.name collection := rfl
      rw [show (handle.move .reopening).options.name = handle.options.name from rfl, same,
        absent] at present
      cases present
    · intro noticed
      cases there : journal.store.collection? handle.options.name collection with
      | none => exact absurd ⟨mode, taken, there⟩ noticed
      | some held => exact Option.isSome_iff_exists.mpr ⟨held, there⟩

theorem begin_covers {connection : Connection} {transaction : Nat} {after : Handle × Journal}
    (ready : handle.state = .ready connection)
    (success : handle.beginTransaction named journal = (.ok transaction, after))
    (knows : handle.Knows journal.store) :
    ∃ active, after.2.store.transactions.get? transaction = some active ∧
      active.database = handle.options.name ∧ active.mode = .readWrite ∧
      (∀ collection ∈ active.scope,
        (after.2.store.collection? handle.options.name collection).isSome = true) ∧
      ∀ collection ∈ handle.needed named,
        collection ∈ active.scope ↔ ¬handle.Overlooks connection journal.store collection := by
  obtain ⟨covering, covered, covers, -, begun⟩ := beginTransaction_ok success
  obtain ⟨database, reached, running, present, same⟩ := Store.begin_ok begun
  have options := (handle.cover_continues named journal).options
  rw [covers] at options
  have limited : covered.1.scope covering = handle.scope covering := by
    simp only [scope]
    rw [options]
  rw [limited] at running present
  have how := cover_ok ready covers
  have here : database = handle.options.name := by
    cases how with
    | known nothing => exact (knows connection ready).reaches database reached
    | grown covering reopened opened =>
      exact (openConnection_ok opened).knows.reaches database reached
  subst here
  refine ⟨_, running, rfl, rfl, fun collection member => ?_, ?_⟩
  · rw [Store.collection?_of_databases same]
    exact present collection member
  · intro collection needs
    cases mode : handle.options.mode with
    | fixed =>
      simp only [scope, needed, mode] at needs ⊢
      apply iff_of_true needs
      intro overlooked
      cases mode.symm.trans overlooked.mode
    | perStatement =>
      have everything : handle.scope covering = covering.collections := by
        simp only [scope, mode]
      simp only [everything]
      cases how with
      | known nothing =>
        have there := known_of_missing_eq_nil needs nothing
        apply iff_of_true there
        intro overlooked
        have present := (knows connection ready).present collection there
        rw [overlooked.absent] at present
        cases present
      | grown covering reopened opened =>
        exact grown_lists_iff mode (knows connection ready) needs opened

end Handle

end RecordSql
