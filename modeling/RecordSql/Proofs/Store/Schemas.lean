import RecordSql.Proofs.Store.Steps

/-!
How the schema of a database changes. Its version and its collections change in an
upgrade and nowhere else, and an upgrade only adds. What the one who opens a database
learns while it is upgraded is true of the collections that are there and of those that
the upgrade has created so far.
-/

namespace RecordSql

/-- What an upgrade asks of its schema, with the answer. -/
inductive UpgradeCall where
  | checked (name : String) (present : Bool)
  | created (name : String) (failure? : Option StoreError)

namespace UpgradeCall

def made? : UpgradeCall → Option String
  | .created name none => some name
  | _ => none

/-- The names that were created. -/
def made (calls : List UpgradeCall) : List String := calls.filterMap made?

@[simp]
theorem made_checked (name : String) (present : Bool) (rest : List UpgradeCall) :
    made (.checked name present :: rest) = made rest := rfl

@[simp]
theorem made_created (name : String) (rest : List UpgradeCall) :
    made (.created name none :: rest) = name :: made rest := rfl

@[simp]
theorem made_refused (name : String) (cause : StoreError) (rest : List UpgradeCall) :
    made (.created name (some cause) :: rest) = made rest := rfl

/-- The answer fits the names that are known when the call is made. -/
def Fits (known : String → Prop) : UpgradeCall → Prop
  | .checked name present => present = true ↔ known name
  | .created name none => ¬known name
  | .created name (some cause) => known name ∧ cause.kind = .constraint

end UpgradeCall

namespace Schema

theorem contains_iff (schema : Schema) (name : String) :
    schema.contains name = true ↔ name ∈ schema.existing ∨ name ∈ schema.created := by
  simp [contains]

end Schema

namespace Upgrade

/-- The calls of an upgrade, in order. -/
def calls : Upgrade → Schema → List UpgradeCall
  | .finish, _ => []
  | .fail _, _ => []
  | .check name next, schema =>
      .checked name (schema.contains name) :: (next (schema.contains name)).calls schema
  | .create name next, schema =>
      match schema.create name with
      | .ok later => .created name none :: (next none).calls later
      | .error cause => .created name (some cause) :: (next (some cause)).calls schema

theorem apply_created (upgrade : Upgrade) (schema : Schema) :
    (upgrade.apply schema).1.created =
      schema.created ++ UpgradeCall.made (upgrade.calls schema) := by
  induction upgrade generalizing schema with
  | finish => exact (List.append_nil _).symm
  | fail cause => exact (List.append_nil _).symm
  | check name next ih => exact ih _ schema
  | create name next ih =>
    simp only [apply, calls]
    by_cases present : schema.contains name = true
    · simp only [Schema.create, present, ↓reduceIte]
      exact ih _ schema
    · simp only [Schema.create, present, Bool.false_eq_true, ↓reduceIte]
      exact (ih none _).trans (List.append_assoc ..)

/-- Every call is answered by what was there and what has been created before it. -/
theorem calls_fit (upgrade : Upgrade) (schema : Schema) {earlier later : List UpgradeCall}
    {call : UpgradeCall} (split : upgrade.calls schema = earlier ++ call :: later) :
    call.Fits fun name => name ∈ schema.existing ∨ name ∈ schema.created ∨
      name ∈ UpgradeCall.made earlier := by
  induction upgrade generalizing schema earlier with
  | finish => exact absurd split.symm (by simp [calls])
  | fail cause => exact absurd split.symm (by simp [calls])
  | check name next ih =>
    rw [calls] at split
    rcases List.cons_eq_append_iff.mp split with ⟨rfl, same⟩ | ⟨others, rfl, rest⟩
    · obtain ⟨rfl, -⟩ := List.cons.inj same
      simp [UpgradeCall.Fits, UpgradeCall.made, schema.contains_iff]
    · rw [UpgradeCall.made_checked]
      exact ih _ schema rest
  | create name next ih =>
    rw [calls] at split
    by_cases present : schema.contains name = true
    · simp only [Schema.create, present, ↓reduceIte] at split
      rcases List.cons_eq_append_iff.mp split with ⟨rfl, same⟩ | ⟨others, rfl, rest⟩
      · obtain ⟨rfl, -⟩ := List.cons.inj same
        rw [schema.contains_iff] at present
        exact ⟨present.imp_right .inl, rfl⟩
      · rw [UpgradeCall.made_refused]
        exact ih _ schema rest
    · simp only [Schema.create, present, Bool.false_eq_true, ↓reduceIte] at split
      rcases List.cons_eq_append_iff.mp split with ⟨rfl, same⟩ | ⟨others, rfl, rest⟩
      · obtain ⟨rfl, -⟩ := List.cons.inj same
        rw [schema.contains_iff] at present
        simpa [UpgradeCall.Fits, UpgradeCall.made] using present
      · have fits := ih none _ rest
        simpa [or_assoc] using fits

end Upgrade

/-- A command that does not open the database of this name. -/
def Command.Leaves (name : String) (command : Command) : Prop :=
  ∀ version? upgrade, command ≠ .openDatabase name version? upgrade

namespace Store

variable {store later : Store} {exchange : Exchange} {name : String}

/-- Nobody can ask for version 0. -/
theorem target_pos (store : Store) (name : String) {version? : Option UInt32}
    (positive : version? ≠ some 0) : 0 < store.target name version? := by
  cases version? with
  | some version =>
    apply UInt32.lt_of_le_of_ne UInt32.zero_le
    exact fun zero => positive (congrArg some zero.symm)
  | none =>
    change 0 < if _ ≤ _ then _ else _
    split
    · decide
    · next above => exact UInt32.lt_of_le_of_lt UInt32.zero_le (UInt32.not_le.mp above)

theorem StepEnds.version_eq (ends : store.StepEnds exchange later)
    (leaves : exchange.command.Leaves name) :
    (later.database name).version = (store.database name).version := by
  cases ends with
  | idle _ _ idle within => simp only [database, within.databases]
  | upgraded other version? upgrade target run newer grownStore grows =>
    subst grows
    have differ : name ≠ other := by
      rintro rfl
      exact leaves version? upgrade rfl
    exact congrArg Database.version (database_grown_of_ne store other _ _ differ)
  | reopened | begun => rfl
  | answered transaction collection asked active admitted held present answer changed success =>
    by_cases same : name = active.database
    · rw [same, database_hold_self]
    · rw [database_hold_of_ne store active.database collection changed same]

theorem StepEnds.collection_isSome_eq (ends : store.StepEnds exchange later)
    (leaves : exchange.command.Leaves name) (collection : String) :
    (later.collection? name collection).isSome = (store.collection? name collection).isSome := by
  cases ends with
  | idle _ _ idle within => rw [collection?_of_databases within.databases]
  | upgraded other version? upgrade target run newer grownStore grows =>
    subst grows
    have differ : name ≠ other := by
      rintro rfl
      exact leaves version? upgrade rfl
    rw [collection?_connect, collection?_grown_of_ne store other _ _ differ]
  | reopened | begun => rfl
  | answered transaction held asked active admitted stored present answer changed success =>
    by_cases same : name = active.database ∧ collection = held
    · obtain ⟨here, this⟩ := same
      rw [here, this, collection?_hold_self, present]
      rfl
    · rw [collection?_hold_of_ne store _ _ _ same]

theorem open_others (store : Store) (name : String) (version? : Option UInt32)
    (upgrade : UInt32 → UInt32 → Upgrade) {other : String} (differ : other ≠ name) :
    (store.openDatabase name version? upgrade).2.databases.get? other =
      store.databases.get? other := by
  have ends := open_ends store name version? upgrade
  generalize store.openDatabase name version? upgrade = result at ends
  cases ends with
  | injected | zero | outdated | aborted | reopened => rfl
  | upgraded calm positive newer success grownStore grows =>
    subst grows
    exact SortedMap.get?_insert_of_ne store.databases differ _

/-- The version is the same, and so are the collections by their names. -/
structure KeepsSchema (store : Store) (name : String) (later : Store) : Prop where
  version : (later.database name).version = (store.database name).version
  collections : ∀ collection, (later.collection? name collection).isSome =
    (store.collection? name collection).isSome

/-- An open that upgrades its database: nothing makes it fail, it asks for a version
above the stored one, and the upgrade does not give up. -/
structure Upgrades (store : Store) (name : String) (version? : Option UInt32)
    (upgrade : UInt32 → UInt32 → Upgrade) : Prop where
  calm : .openDatabase ∉ store.faults
  newer : (store.database name).version < store.target name version?
  success : (store.upgradeRun name version? upgrade).failure? = none

def upgradeCalls (store : Store) (name : String) (version? : Option UInt32)
    (upgrade : UInt32 → UInt32 → Upgrade) : List UpgradeCall :=
  (upgrade (store.database name).version (store.target name version?)).calls
    (store.schemaOf name (store.target name version?))

/-- What an upgrade that was asked to create these names tells and leaves. -/
structure UpgradedTo (store : Store) (name : String) (target : UInt32) (names : List String)
    (opening : Opening) (later : Store) : Prop where
  opened : ∃ opened, opening.result = .ok opened ∧ opened.version = target
  told : ∃ run, opening.upgrade? = some run ∧
    run.start.oldVersion = (store.database name).version ∧ run.start.newVersion = target
  version : (later.database name).version = target
  collections : ∀ collection, later.collection? name collection =
    (store.collection? name collection).or (if collection ∈ names then some .empty else none)
  others : ∀ other, other ≠ name → later.databases.get? other = store.databases.get? other

theorem step_keeps_schema (store : Store) (command : Command) (name : String) :
    store.KeepsSchema name (store.step command).2 ∨ ∃ version? upgrade,
      command = .openDatabase name version? upgrade ∧ store.Upgrades name version? upgrade := by
  by_cases leaves : command.Leaves name
  · exact .inl ⟨(store.step_ends command).version_eq leaves,
      (store.step_ends command).collection_isSome_eq leaves⟩
  · -- What is left is an open of this very database.
    obtain ⟨version?, opensSo⟩ := Classical.not_forall.mp leaves
    obtain ⟨upgrade, opens⟩ := Classical.not_forall.mp opensSo
    obtain rfl := Classical.not_not.mp opens
    have ends := open_ends store name version? upgrade
    simp only [step]
    generalize store.openDatabase name version? upgrade = result at ends
    cases ends with
    | injected | zero | outdated | aborted | reopened => exact .inl ⟨rfl, fun _ => rfl⟩
    | upgraded calm positive newer success => exact .inr ⟨_, _, rfl, calm, newer, success⟩

theorem upgradeRun_created (store : Store) (name : String) (version? : Option UInt32)
    (upgrade : UInt32 → UInt32 → Upgrade) :
    (store.upgradeRun name version? upgrade).finish.created =
      UpgradeCall.made (store.upgradeCalls name version? upgrade) :=
  Upgrade.apply_created _ _

theorem Upgrades.upgradedTo {version? : Option UInt32} {upgrade : UInt32 → UInt32 → Upgrade}
    (upgrades : store.Upgrades name version? upgrade) :
    store.UpgradedTo name (store.target name version?)
      (UpgradeCall.made (store.upgradeCalls name version? upgrade))
      (store.openDatabase name version? upgrade).1
      (store.openDatabase name version? upgrade).2 := by
  have others := fun other => @open_others store name version? upgrade other
  have ends := open_ends store name version? upgrade
  generalize store.openDatabase name version? upgrade = result at ends others
  cases ends with
  | injected pending => exact absurd pending upgrades.calm
  | zero calm zero =>
    have newer := upgrades.newer
    rw [zero] at newer
    exact absurd newer (UInt32.not_lt.mpr UInt32.zero_le)
  | outdated calm positive older =>
    exact absurd (UInt32.lt_trans upgrades.newer older) (UInt32.lt_irrefl _)
  | aborted calm positive newer cause failure => cases upgrades.success.symm.trans failure
  | reopened calm positive same =>
    have newer := upgrades.newer
    rw [same] at newer
    exact absurd newer (UInt32.lt_irrefl _)
  | upgraded calm positive newer success grownStore grows =>
    have version : (grownStore.database name).version = store.target name version? := by
      rw [grows, database_grown_self]
      rfl
    refine ⟨⟨_, rfl, version⟩, ⟨_, rfl, rfl, rfl⟩, version, fun collection => ?_, others⟩
    rw [collection?_connect, grows, collection?_grown_self, upgradeRun_created]

/-- An open without an upgrade that succeeds has only registered its connection. -/
theorem open_needless {version? : Option UInt32} (upgrade : UInt32 → UInt32 → Upgrade)
    (needless : ¬(store.database name).version < store.target name version?) :
    (store.openDatabase name version? upgrade).1.upgrade? = none ∧
      ∀ opened, (store.openDatabase name version? upgrade).1.result = .ok opened →
        (store.openDatabase name version? upgrade).2 = { store with
          connections := store.connections.insert store.nextConnection name
          nextConnection := following store.nextConnection } := by
  have ends := open_ends store name version? upgrade
  generalize store.openDatabase name version? upgrade = result at ends
  cases ends with
  | injected | zero | outdated => exact ⟨rfl, by rintro opened ⟨⟩⟩
  | aborted calm positive newer | upgraded calm positive newer => exact absurd newer needless
  | reopened => exact ⟨rfl, fun opened success => rfl⟩

theorem open_zero (store : Store) (name : String) (upgrade : UInt32 → UInt32 → Upgrade) :
    ∃ cause, (store.openDatabase name (some 0) upgrade).1 = ⟨.error cause, none⟩ ∧
      (.openDatabase ∉ store.faults → cause.kind = .data) := by
  have ends := open_ends store name (some 0) upgrade
  generalize store.openDatabase name (some 0) upgrade = result at ends
  cases ends with
  | injected pending => exact ⟨_, rfl, absurd pending⟩
  | zero => exact ⟨_, rfl, fun _ => rfl⟩
  | outdated _ positive | aborted _ positive | upgraded _ positive | reopened _ positive =>
    exact absurd rfl positive

theorem open_older {version : UInt32} (upgrade : UInt32 → UInt32 → Upgrade)
    (older : version < (store.database name).version) :
    ∃ cause, (store.openDatabase name (some version) upgrade).1 = ⟨.error cause, none⟩ ∧
      (.openDatabase ∉ store.faults → version ≠ 0 → cause.kind = .version) := by
  have notNewer : ¬(store.database name).version < store.target name (some version) :=
    UInt32.not_lt.mpr (UInt32.le_of_lt older)
  have ends := open_ends store name (some version) upgrade
  generalize store.openDatabase name (some version) upgrade = result at ends
  cases ends with
  | injected pending => exact ⟨_, rfl, absurd pending⟩
  | zero calm zero => exact ⟨_, rfl, fun _ positive => absurd (Option.some.inj zero) positive⟩
  | outdated => exact ⟨_, rfl, fun _ _ => rfl⟩
  | aborted _ _ newer | upgraded _ _ newer => exact absurd newer notNewer
  | reopened calm positive same =>
    change version = _ at same
    rw [same] at older
    exact absurd older (UInt32.lt_irrefl _)

/-- What was there stays there, and no version goes back. -/
theorem run_grows (store : Store) (history : List Command) (name : String) :
    (store.database name).version ≤ ((store.run history).database name).version ∧
      ∀ collection, (store.collection? name collection).isSome = true →
        ((store.run history).collection? name collection).isSome = true := by
  induction history generalizing store with
  | nil => exact ⟨UInt32.le_refl _, fun _ => id⟩
  | cons command rest ih =>
    obtain ⟨version, collections⟩ := ih (store.step command).2
    refine ⟨UInt32.le_trans ((store.step_ends command).version_le name) version, ?_⟩
    intro collection present
    exact collections collection (store.step_collection_isSome command name collection present)

/-- Versions and collections only grow, and only where an open upgrades its database. The
upgrade learns the two versions and is answered truthfully; what it has created is added,
and every collection that was there is kept as it is. -/
theorem schemas_grow_by_upgrades (store : Store) :
    (∀ history name,
      (store.database name).version ≤ ((store.run history).database name).version ∧
      ∀ collection, (store.collection? name collection).isSome = true →
        ((store.run history).collection? name collection).isSome = true) ∧
    (∀ command name, store.KeepsSchema name (store.step command).2 ∨ ∃ version? upgrade,
      command = .openDatabase name version? upgrade ∧ store.Upgrades name version? upgrade) ∧
    (∀ name version? upgrade, store.Upgrades name version? upgrade →
      store.UpgradedTo name (store.target name version?)
        (UpgradeCall.made (store.upgradeCalls name version? upgrade))
        (store.openDatabase name version? upgrade).1
        (store.openDatabase name version? upgrade).2) ∧
    (∀ name version? upgrade earlier call later,
      store.upgradeCalls name version? upgrade = earlier ++ call :: later →
      call.Fits fun collection => (store.collection? name collection).isSome = true ∨
        collection ∈ UpgradeCall.made earlier) ∧
    (∀ name upgrade, ∃ cause,
      (store.openDatabase name (some 0) upgrade).1 = ⟨.error cause, none⟩ ∧
      (.openDatabase ∉ store.faults → cause.kind = .data)) ∧
    (∀ name version upgrade, version < (store.database name).version → ∃ cause,
      (store.openDatabase name (some version) upgrade).1 = ⟨.error cause, none⟩ ∧
      (.openDatabase ∉ store.faults → version ≠ 0 → cause.kind = .version)) ∧
    ∀ name version? upgrade, ¬(store.database name).version < store.target name version? →
      (store.openDatabase name version? upgrade).1.upgrade? = none ∧
      ∀ opened, (store.openDatabase name version? upgrade).1.result = .ok opened →
        (store.openDatabase name version? upgrade).2 = { store with
          connections := store.connections.insert store.nextConnection name
          nextConnection := following store.nextConnection } := by
  refine ⟨store.run_grows, store.step_keeps_schema, fun _ _ _ => Upgrades.upgradedTo, ?_,
    store.open_zero, fun _ _ => open_older, fun _ _ => open_needless⟩
  intro name version? upgrade earlier call later split
  have fits := Upgrade.calls_fit _ _ split
  have known : ∀ collection, collection ∈ (store.database name).collections.keys ↔
      (store.collection? name collection).isSome = true := by
    intro collection
    rw [collection?_eq_database]
    exact SortedMap.mem_keys_iff _ _
  -- An upgrade starts from the collections that are there, with none created.
  simpa only [schemaOf, List.not_mem_nil, false_or, known] using fits

/-- A database with a record under a generated key. -/
def holdingOne : Store :=
  empty.run
    [.openDatabase "notes" none fun _ _ => .create "t" fun _ => .finish,
      .beginTransaction 0 ["t"] .readWrite, .request 0 "t" (.add .empty)]

/-- An upgrade that asks for a collection that is there and for another one twice, and goes on
when it is refused. -/
def insistent : UInt32 → UInt32 → Upgrade := fun _ _ =>
  .create "t" fun _ => .create "u" fun _ => .create "u" fun _ => .finish

/-- The record is still there under its key, and so is the generator ahead of it. -/
theorem insistent_upgrade_creates_once :
    let opened := holdingOne.openDatabase "notes" (some 2) insistent
    holdingOne.Upgrades "notes" (some 2) insistent ∧
      holdingOne.UpgradedTo "notes" 2 ["u"] opened.1 opened.2 ∧
      opened.2.collection? "notes" "t" = some ⟨SortedMap.empty.insert 1 (.ofKey 1), 2⟩ ∧
      opened.2.collection? "notes" "u" = some .empty := by
  intro opened
  have upgrades : holdingOne.Upgrades "notes" (some 2) insistent :=
    ⟨List.not_mem_nil, by decide, rfl⟩
  obtain ⟨-, -, grows, -⟩ := schemas_grow_by_upgrades holdingOne
  have upgraded : holdingOne.UpgradedTo "notes" 2 ["u"] opened.1 opened.2 := grows _ _ _ upgrades
  exact ⟨upgrades, upgraded, upgraded.collections "t", upgraded.collections "u"⟩

end Store

end RecordSql
