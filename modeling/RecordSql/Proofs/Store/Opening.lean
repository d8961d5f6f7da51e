import RecordSql.Proofs.Store.Request

/-!
How opening a database can end, and what an upgrade does to its collections. An
upgrade adds empty collections under names that were free and leaves every
collection that was there as it is, so no open ever takes a record away.
-/

namespace RecordSql

namespace Schema

theorem contains_append (schema : Schema) (name other : String) :
    ({ schema with created := schema.created ++ [other] } : Schema).contains name =
      (schema.contains name || name == other) := by
  simp only [contains, List.contains_eq_mem, List.mem_append, List.mem_singleton]
  by_cases same : name = other <;> simp [same]

end Schema

namespace Upgrade

/-- Creating what is missing never fails, and all of it is there afterwards. -/
theorem createMissing_apply (names : List String) (schema : Schema) :
    ((createMissing names .finish).apply schema).2 = none ∧
      ∀ name, ((createMissing names .finish).apply schema).1.contains name =
        (schema.contains name || names.contains name) := by
  induction names generalizing schema with
  | nil => simp [createMissing, apply]
  | cons first rest ih =>
    simp only [createMissing, List.foldr_cons, apply]
    by_cases present : schema.contains first = true
    · obtain ⟨fine, contents⟩ := ih schema
      simp only [present, ↓reduceIte]
      refine ⟨fine, fun name => (contents name).trans ?_⟩
      by_cases same : name = first
      · simp [same, present]
      · simp [same]
    · simp only [present, Bool.false_eq_true, ↓reduceIte, createEach, List.foldr_cons,
        List.foldr_nil, apply, Schema.create]
      obtain ⟨fine, contents⟩ := ih { schema with created := schema.created ++ [first] }
      refine ⟨fine, fun name => (contents name).trans ?_⟩
      rw [Schema.contains_append, List.contains_cons, Bool.or_assoc]

theorem apply_existing (upgrade : Upgrade) (schema : Schema) :
    (upgrade.apply schema).1.existing = schema.existing := by
  induction upgrade generalizing schema with
  | finish => rfl
  | fail cause => rfl
  | check name next ih => exact ih _ schema
  | create name next ih =>
    simp only [apply]
    by_cases present : schema.contains name = true
    · simp only [Schema.create, present, ↓reduceIte]
      exact ih _ schema
    · simp only [Schema.create, present, Bool.false_eq_true, ↓reduceIte]
      exact ih _ _

end Upgrade

namespace Database

theorem grow_collection? (database : Database) (version : UInt32) (names : List String)
    (name : String) :
    (database.grow version names).collections.get? name =
      (database.collections.get? name).or (if name ∈ names then some .empty else none) := by
  obtain ⟨current, collections⟩ := database
  simp only [grow]
  induction names generalizing collections with
  | nil => simp
  | cons first rest ih =>
    simp only [List.foldl_cons]
    rw [ih]
    by_cases present : collections.contains first = true
    · obtain ⟨held, found⟩ := (SortedMap.contains_iff collections first).mp present
      by_cases same : name = first
      · simp [present, same, found]
      · simp [present, same]
    · have absent : collections.get? first = none :=
        (SortedMap.contains_eq_false_iff collections first).mp (by simpa using present)
      by_cases same : name = first
      · simp [present, same, absent]
      · simp [present, same, SortedMap.get?_insert_of_ne _ same]

end Database

namespace Store

def target (store : Store) (name : String) (version? : Option UInt32) : UInt32 :=
  version?.getD (max (store.database name).version 1)

def upgradeRun (store : Store) (name : String) (version? : Option UInt32)
    (upgrade : UInt32 → UInt32 → Upgrade) : UpgradeRun :=
  (upgrade (store.database name).version (store.target name version?)).run
    (store.schemaOf name (store.target name version?))

def grown (store : Store) (name : String) (version : UInt32) (created : List String) : Store :=
  { store with
    databases := store.databases.insert name ((store.database name).grow version created) }

inductive OpenEnds (store : Store) (name : String) (version? : Option UInt32)
    (upgrade : UInt32 → UInt32 → Upgrade) : Opening × Store → Prop where
  | injected (pending : .openDatabase ∈ store.faults) :
      OpenEnds store name version? upgrade
        (⟨.error (.injected .openDatabase), none⟩, store.useFault .openDatabase)
  | zero (calm : .openDatabase ∉ store.faults) (zero : version? = some 0) :
      OpenEnds store name version? upgrade (⟨.error .versionNotPositive, none⟩, store)
  | outdated (calm : .openDatabase ∉ store.faults) (positive : version? ≠ some 0)
      (older : store.target name version? < (store.database name).version) :
      OpenEnds store name version? upgrade
        (⟨.error (.versionOutdated (store.target name version?) (store.database name).version),
          none⟩, store)
  | aborted (calm : .openDatabase ∉ store.faults) (positive : version? ≠ some 0)
      (newer : (store.database name).version < store.target name version?) (cause : StoreError)
      (failure : (store.upgradeRun name version? upgrade).failure? = some cause) :
      OpenEnds store name version? upgrade
        (⟨.error (.upgradeAborted (store.target name version?) cause),
          some (store.upgradeRun name version? upgrade)⟩, store)
  | upgraded (calm : .openDatabase ∉ store.faults) (positive : version? ≠ some 0)
      (newer : (store.database name).version < store.target name version?)
      (success : (store.upgradeRun name version? upgrade).failure? = none) (grownStore : Store)
      (grows : grownStore = store.grown name (store.target name version?)
        (store.upgradeRun name version? upgrade).finish.created) :
      OpenEnds store name version? upgrade
        (⟨.ok (grownStore.connect name).1, some (store.upgradeRun name version? upgrade)⟩,
          (grownStore.connect name).2)
  | reopened (calm : .openDatabase ∉ store.faults) (positive : version? ≠ some 0)
      (same : store.target name version? = (store.database name).version) :
      OpenEnds store name version? upgrade
        (⟨.ok (store.connect name).1, none⟩, (store.connect name).2)

theorem open_ends (store : Store) (name : String) (version? : Option UInt32)
    (upgrade : UInt32 → UInt32 → Upgrade) :
    OpenEnds store name version? upgrade (store.openDatabase name version? upgrade) := by
  simp only [openDatabase]
  by_cases pending : .openDatabase ∈ store.faults
  · rw [takeFault?_of_mem store _ pending]
    exact .injected pending
  · rw [takeFault?_of_not_mem store _ pending]
    dsimp only
    by_cases zero : version? = some 0
    · simp only [zero, ↓reduceIte]
      exact .zero pending rfl
    · simp only [zero, ↓reduceIte]
      by_cases older : store.target name version? < (store.database name).version
      · simp only [target] at older
        simp only [older, ↓reduceIte]
        exact .outdated pending zero older
      · by_cases newer : (store.database name).version < store.target name version?
        · have ran := newer
          simp only [target] at older newer
          simp only [older, newer, ↓reduceIte]
          cases failure : (store.upgradeRun name version? upgrade).failure? with
          | some cause =>
            simp only [upgradeRun, target] at failure
            simp only [failure]
            exact .aborted pending zero ran cause failure
          | none =>
            have success := failure
            simp only [upgradeRun, target] at failure
            simp only [failure]
            exact .upgraded pending zero ran success _ rfl
        · have same : store.target name version? = (store.database name).version :=
            UInt32.le_antisymm (UInt32.not_lt.mp newer) (UInt32.not_lt.mp older)
          simp only [target] at older newer
          simp only [older, newer, ↓reduceIte]
          exact .reopened pending zero same

theorem collection?_connect (store : Store) (name database collection : String) :
    (store.connect name).2.collection? database collection =
      store.collection? database collection := rfl

theorem database_grown_self (store : Store) (name : String) (version : UInt32)
    (created : List String) :
    (store.grown name version created).database name =
      (store.database name).grow version created := by
  simp [grown, database]

theorem database_grown_of_ne (store : Store) (name : String) (version : UInt32)
    (created : List String) {other : String} (differ : other ≠ name) :
    (store.grown name version created).database other = store.database other := by
  simp [grown, database, SortedMap.get?_insert_of_ne _ differ]

theorem collection?_grown_self (store : Store) (name : String) (version : UInt32)
    (created : List String) (collection : String) :
    (store.grown name version created).collection? name collection =
      (store.collection? name collection).or
        (if collection ∈ created then some .empty else none) := by
  simp only [collection?_eq_database, database_grown_self, Database.grow_collection?]

theorem collection?_grown_of_ne (store : Store) (name : String) (version : UInt32)
    (created : List String) {other : String} (differ : other ≠ name) (collection : String) :
    (store.grown name version created).collection? other collection =
      store.collection? other collection := by
  simp only [collection?_eq_database, database_grown_of_ne store name version created differ]

end Store

end RecordSql
