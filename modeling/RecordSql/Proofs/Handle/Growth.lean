import RecordSql.Proofs.Handle.Mirror

/-!
What becomes of a handle that has to create collections. It opens its database
again, one version higher, and all that is missing is created at once. If that open
is made to fail it falls back to the database as it was, and if this one is made to
fail as well the handle is errored. Either way the databases are as before.
-/

namespace RecordSql

namespace Store

/-- One upgrade of a database has created the names that were not there. -/
structure GrownBy (store : Store) (name : String) (names : List String) (later : Store) :
    Prop where
  version : (later.database name).version = (store.database name).version + 1
  collections : ∀ collection, later.collection? name collection =
    (store.collection? name collection).or (if collection ∈ names then some .empty else none)
  others : ∀ other, other ≠ name → later.databases.get? other = store.databases.get? other

theorem target_none {store : Store} {name : String}
    (positive : 0 < (store.database name).version) :
    store.target name none = (store.database name).version := by
  apply UInt32.le_antisymm
  · change (if _ ≤ _ then _ else _) ≤ _
    split
    · rw [UInt32.lt_iff_toNat_lt] at positive
      rw [UInt32.le_iff_toNat_le]
      exact positive
    · exact UInt32.le_refl _
  · exact UInt32.not_lt.mp (store.not_target_none_lt name)

end Store

namespace Handle

variable {handle : Handle} {journal : Journal} {connection : Connection} {named : List String}

section Opening

variable {version? : Option UInt32} {names : List String}

theorem openConnection_injected (pending : .openDatabase ∈ journal.store.faults) :
    ∃ later, handle.openConnection version? names journal =
        (.error (.injected .openDatabase), handle, later) ∧
      later.store = journal.store.useFault .openDatabase := by
  have ends := handle.openConnection_ends version? names journal
  generalize handle.openConnection version? names journal = reply at ends ⊢
  cases ends with
  | injected later _ store => exact ⟨later, rfl, store⟩
  | zero _ calm | outdated _ calm | upgraded _ calm | reopened _ calm =>
    exact absurd pending calm

theorem openConnection_version {after : Handle × Journal}
    (success : handle.openConnection version? names journal = (.ok connection, after)) :
    connection.version = journal.store.target handle.options.name version? := by
  cases openConnection_ended success with
  | upgraded after calm positive newer grown grows =>
    rw [grows]
    change ((journal.store.grown handle.options.name _ _).database handle.options.name).version = _
    rw [Store.database_grown_self]
    rfl
  | reopened later calm positive same => exact same.symm

/-- Opening a database as it is changes no database. -/
theorem openConnection_none_databases
    (positive : 0 < (journal.store.database handle.options.name).version) :
    (handle.openConnection none [] journal).2.2.store.databases = journal.store.databases := by
  have ends := handle.openConnection_ends none [] journal
  generalize handle.openConnection none [] journal = reply at ends ⊢
  cases ends with
  | injected _ _ store | zero _ _ _ store | outdated _ _ _ _ store
  | reopened _ _ _ _ store =>
    have same := congrArg Store.databases store
    exact same
  | upgraded _ _ _ newer =>
    rw [Store.target_none positive] at newer
    exact absurd newer (UInt32.lt_irrefl _)

theorem openConnection_others (handle : Handle) (version? : Option UInt32)
    (names : List String) (journal : Journal) {other : String}
    (differ : other ≠ handle.options.name) :
    (handle.openConnection version? names journal).2.2.store.databases.get? other =
      journal.store.databases.get? other := by
  rw [(openConnection_exchange rfl).1]
  exact journal.store.open_others handle.options.name version? _ differ

end Opening

theorem missing_eq_nil_iff (mirrors : connection.Mirrors handle.options.name journal.store) :
    handle.missing connection named = [] ↔ ∀ collection ∈ handle.needed named,
      (journal.store.collection? handle.options.name collection).isSome = true := by
  constructor
  · intro nothing collection needs
    exact (mirrors.lists collection).mp (known_of_missing_eq_nil needs nothing)
  · intro present
    apply List.filter_eq_nil_iff.mpr
    intro collection needs
    simp [(mirrors.lists collection).mpr (present collection needs)]

/-- A handle that knows all that is needed opens nothing. -/
theorem begin_known_same (ready : handle.state = .ready connection)
    (nothing : handle.missing connection named = []) :
    (handle.beginTransaction named journal).2.1 = handle ∧
      (handle.beginTransaction named journal).2.2.store.databases = journal.store.databases := by
  constructor
  · rw [beginTransaction_handle, cover_known ready nothing]
  · rw [beginTransaction, cover_known ready nothing]
    exact Store.begin_databases journal.store _ _ _

theorem fallBack_reopens (unsettled : handle.state.isSettled = false)
    (calm : .openDatabase ∉ journal.store.faults)
    (positive : 0 < (journal.store.database handle.options.name).version) :
    ∃ reached, (handle.fallBack journal).1.state = .ready reached ∧
      reached.version = (journal.store.database handle.options.name).version ∧
      (handle.fallBack journal).2.store.databases = journal.store.databases := by
  obtain ⟨reached, after, opened⟩ : ∃ reached after,
      handle.openConnection none [] journal = (.ok reached, after) :=
    openConnection_calm calm (by rintro ⟨⟩) (journal.store.not_target_none_lt handle.options.name)
  have same := openConnection_none_databases positive
  rw [opened] at same
  refine ⟨reached, ?_, ?_, ?_⟩
  · rw [fallBack, opened]
    exact opened_ready unsettled opened
  · rw [openConnection_version opened, Store.target_none positive]
  · rw [fallBack, opened]
    exact same

theorem fallBack_errored (unsettled : handle.state.isSettled = false)
    (pending : .openDatabase ∈ journal.store.faults) :
    (handle.fallBack journal).1.state = .errored (.openFailed (.injected .openDatabase)) ∧
      (handle.fallBack journal).2.store.databases = journal.store.databases := by
  obtain ⟨later, refused, store⟩ : ∃ later, handle.openConnection none [] journal =
      (.error (.injected .openDatabase), handle, later) ∧
      later.store = journal.store.useFault .openDatabase := openConnection_injected pending
  rw [fallBack, refused]
  refine ⟨errored_of_failed unsettled _, ?_⟩
  change later.store.databases = journal.store.databases
  rw [store]
  rfl

theorem older_than_next (mirrors : connection.Mirrors handle.options.name journal.store)
    (left : connection.version < 4294967295) :
    (journal.store.database handle.options.name).version < connection.version + 1 := by
  rw [← mirrors.version]
  rw [UInt32.lt_iff_toNat_lt] at left ⊢
  rw [UInt32.toNat_add]
  simp only [UInt32.reduceToNat] at left ⊢
  omega

/-- What was created is what is needed and was not there. -/
theorem created_of_missing (mirrors : connection.Mirrors handle.options.name journal.store)
    (left : connection.version < 4294967295) {reopened : Handle × Journal} {covering : Connection}
    (opened : (handle.move .reopening).openConnection (some (connection.version + 1))
      (handle.missing connection named) (closed connection journal) = (.ok covering, reopened))
    (collection : String) :
    reopened.2.store.collection? handle.options.name collection =
      (journal.store.collection? handle.options.name collection).or
        (if collection ∈ handle.needed named then some .empty else none) := by
  have facts := openConnection_ok opened
  have newer := older_than_next mirrors left
  refine (facts.upgraded newer collection).trans ?_
  change (journal.store.collection? handle.options.name collection).or _ = _
  cases there : journal.store.collection? handle.options.name collection with
  | some held => rfl
  | none =>
    have unknown : collection ∉ connection.collections := by
      rw [mirrors.lists, there]
      rintro ⟨⟩
    simp [missing, unknown]

section Unknown

variable (ready : handle.state = .ready connection)
  (mirrors : connection.Mirrors handle.options.name journal.store)
  (left : connection.version < 4294967295)
  (something : handle.missing connection named ≠ [])

include ready left something

theorem begin_refused (pending : .openDatabase ∈ journal.store.faults) :
    ∃ later, later.store = (closed connection journal).store.useFault .openDatabase ∧
      handle.beginTransaction named journal =
        (.error (.transactionFailed (.injected .openDatabase)),
          (handle.move .reopening).fallBack later) := by
  obtain ⟨later, refused, store⟩ :
      ∃ later, (handle.move .reopening).openConnection
        (some (connection.version + 1)) (handle.missing connection named)
        (closed connection journal) =
          (.error (.injected .openDatabase), handle.move .reopening, later) ∧
      later.store = (closed connection journal).store.useFault .openDatabase :=
    openConnection_injected pending
  refine ⟨later, store, ?_⟩
  simp only [closed] at refused
  rw [beginTransaction, cover_unknown ready something, grow, if_neg (UInt32.ne_of_lt left)]
  simp only [refused]

include mirrors

/-- If no open is made to fail, one upgrade creates all that is missing. -/
theorem begin_grows (calm : .openDatabase ∉ journal.store.faults) :
    ∃ transaction after reached,
      handle.beginTransaction named journal = (.ok transaction, after) ∧
      after.1.state = .ready reached ∧ reached.version = connection.version + 1 ∧
      journal.store.GrownBy handle.options.name (handle.needed named) after.2.store := by
  obtain ⟨covering, reopened, opened, covers⟩ := cover_grown ready calm left something
    (UInt32.not_lt.mpr (UInt32.le_of_lt (older_than_next mirrors left)))
  have created := created_of_missing mirrors left opened
  have facts := openConnection_ok opened
  have begins : (handle.beginTransaction named journal).1.isOk = true := by
    rw [begin_grown_iff covers facts.reaches facts.lists]
    obtain ⟨collection, member⟩ := List.exists_mem_of_ne_nil _ something
    refine ⟨collection, worksOn_of_mem_missing member, ?_⟩
    rw [created, if_pos (List.mem_filter.mp member).1]
    cases journal.store.collection? handle.options.name collection <;> rfl
  generalize begun : handle.beginTransaction named journal = reply at begins
  obtain ⟨cause | transaction, after⟩ := reply
  · cases begins
  · obtain ⟨other, covered, also, moved, started⟩ := beginTransaction_ok begun
    cases covers.symm.trans also
    obtain ⟨database, reached, running, present, same⟩ := Store.begin_ok started
    have version : covering.version = connection.version + 1 := openConnection_version opened
    refine ⟨transaction, after, covering, rfl, ?_, version, ?_⟩
    · rw [moved]
      exact opened_ready (reopening_unsettled ready) opened
    · constructor
      · rw [← mirrors.version, ← version, (openConnection_mirrors opened).version]
        simp only [Store.database, same]
        rfl
      · intro collection
        rw [Store.collection?_of_databases same]
        exact created collection
      · intro foreign differ
        rw [same]
        have kept := (handle.move .reopening).openConnection_others
          (some (connection.version + 1)) (handle.missing connection named)
          (closed connection journal) differ
        rw [opened] at kept
        exact kept

theorem begin_falls_back (once : journal.store.faults.count .openDatabase = 1) :
    ∃ after reached, handle.beginTransaction named journal =
        (.error (.transactionFailed (.injected .openDatabase)), after) ∧
      after.1.state = .ready reached ∧ reached.version = connection.version ∧
      after.2.store.databases = journal.store.databases := by
  have pending : .openDatabase ∈ journal.store.faults := by
    apply List.count_pos_iff.mp
    omega
  obtain ⟨later, store, begins⟩ := begin_refused ready left something pending
  have calm : .openDatabase ∉ later.store.faults := by
    rw [store]
    apply List.count_eq_zero.mp
    change (journal.store.faults.erase .openDatabase).count .openDatabase = 0
    rw [List.count_erase_self, once]
  have same : later.store.databases = journal.store.databases := by
    rw [store]
    rfl
  have kept : (later.store.database handle.options.name).version = connection.version := by
    rw [mirrors.version]
    simp only [Store.database, same]
  obtain ⟨reached, settled, version, databases⟩ := fallBack_reopens
    (reopening_unsettled ready) calm (kept.symm ▸ mirrors.positive)
  exact ⟨_, reached, begins, settled, version.trans kept, databases.trans same⟩

omit mirrors in
theorem begin_is_errored (twice : 2 ≤ journal.store.faults.count .openDatabase) :
    ∃ after, handle.beginTransaction named journal =
        (.error (.transactionFailed (.injected .openDatabase)), after) ∧
      after.1.state = .errored (.openFailed (.injected .openDatabase)) ∧
      after.2.store.databases = journal.store.databases := by
  have pending : .openDatabase ∈ journal.store.faults := by
    apply List.count_pos_iff.mp
    omega
  obtain ⟨later, store, begins⟩ := begin_refused ready left something pending
  have again : .openDatabase ∈ later.store.faults := by
    rw [store]
    apply List.count_pos_iff.mp
    change 0 < (journal.store.faults.erase .openDatabase).count .openDatabase
    rw [List.count_erase_self]
    omega
  obtain ⟨errored, databases⟩ := fallBack_errored (reopening_unsettled ready) again
  refine ⟨_, begins, errored, databases.trans ?_⟩
  rw [store]
  rfl

end Unknown

end Handle

end RecordSql
