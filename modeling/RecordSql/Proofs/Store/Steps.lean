import RecordSql.Proofs.Store.Collections
import RecordSql.Proofs.Store.Transactions

/-!
What one command can do to a store. Four things are ever done: a database is
opened, with or without an upgrade, a transaction begins, or a request is
answered. Every other exchange is idle; it leaves the databases alone and can at
most end a connection or a transaction. Facts that hold over a whole history
follow from these endings.
-/

namespace RecordSql

/-- An exchange that opens no database, begins no transaction and answers no
request. -/
def Exchange.isIdle : Exchange → Bool
  | ⟨.openDatabase _ _ _, opening⟩ => !opening.result.isOk
  | ⟨.beginTransaction _ _ _, reply⟩ => !reply.isOk
  | ⟨.request _ _ _, reply⟩ => !reply.isOk
  | _ => true

namespace Store

/-- The databases are the same, and no connection or transaction is new. -/
structure Within (later store : Store) : Prop where
  databases : later.databases = store.databases
  connections : ∀ identifier name, later.connections.get? identifier = some name →
    store.connections.get? identifier = some name
  transactions : ∀ identifier active, later.transactions.get? identifier = some active →
    store.transactions.get? identifier = some active

theorem Within.refl (store : Store) : store.Within store := ⟨rfl, fun _ _ => id, fun _ _ => id⟩

theorem within_useFault (store : Store) (operation : Operation) :
    (store.useFault operation).Within store := ⟨rfl, fun _ _ => id, fun _ _ => id⟩

theorem within_abort (store : Store) (transaction : Nat) :
    (store.abort transaction).Within store :=
  ⟨rfl, fun _ _ => id, fun other _ => transactions_abort store transaction other⟩

inductive StepEnds (store : Store) : Exchange → Store → Prop where
  | idle (exchange : Exchange) (later : Store) (idle : exchange.isIdle = true)
      (within : later.Within store) : StepEnds store exchange later
  | upgraded (name : String) (version? : Option UInt32) (upgrade : UInt32 → UInt32 → Upgrade)
      (target : UInt32) (run : UpgradeRun) (newer : (store.database name).version < target)
      (grownStore : Store) (grows : grownStore = store.grown name target run.finish.created) :
      StepEnds store
        ⟨.openDatabase name version? upgrade, ⟨.ok (grownStore.connect name).1, some run⟩⟩
        (grownStore.connect name).2
  | reopened (name : String) (version? : Option UInt32) (upgrade : UInt32 → UInt32 → Upgrade)
      (database : Database) (there : store.databases.get? name = some database) :
      StepEnds store ⟨.openDatabase name version? upgrade, ⟨.ok (store.connect name).1, none⟩⟩
        (store.connect name).2
  | begun (connection : Nat) (scope : List String) (mode : AccessMode) (database : String)
      (reached : store.connections.get? connection = some database) (something : scope ≠ [])
      (present : ∀ collection ∈ scope, (store.collection? database collection).isSome = true) :
      StepEnds store ⟨.beginTransaction connection scope mode, .ok store.nextTransaction⟩
        (store.began database scope mode)
  | answered (transaction : Nat) (collection : String) (asked : Request)
      (active : ActiveTransaction) (admitted : store.Admitted transaction collection asked active)
      (held : Collection) (present : store.collection? active.database collection = some held)
      (answer : asked.Answer) (changed : Collection)
      (success : held.answer collection asked = .ok (answer, changed)) :
      StepEnds store ⟨.request transaction collection asked, .ok answer⟩
        (store.hold active.database collection changed)

/-- A database that is opened without an upgrade has been opened before. -/
theorem database_of_reopened {store : Store} {name : String} {version? : Option UInt32}
    (positive : version? ≠ some 0)
    (same : store.target name version? = (store.database name).version) :
    ∃ database, store.databases.get? name = some database := by
  cases found : store.databases.get? name with
  | some database => exact ⟨database, rfl⟩
  | none =>
    -- A new database has version 0, and nobody can ask for that one.
    have new : (store.database name).version = 0 := by
      simp only [database, found]
      rfl
    rw [target, new] at same
    cases version? with
    | none => exact absurd same (by decide)
    | some version => exact absurd (congrArg some same) positive

theorem step_ends (store : Store) (command : Command) :
    StepEnds store ⟨command, (store.step command).1⟩ (store.step command).2 := by
  cases command with
  | openDatabase name version? upgrade =>
    have ends := open_ends store name version? upgrade
    simp only [step]
    generalize store.openDatabase name version? upgrade = result at ends
    cases ends with
    | injected => exact .idle _ _ rfl (within_useFault store _)
    | zero | outdated | aborted => exact .idle _ _ rfl (.refl store)
    | upgraded calm positive newer success grownStore grows =>
      exact .upgraded name version? upgrade _ _ newer grownStore grows
    | reopened calm positive same =>
      obtain ⟨database, there⟩ := database_of_reopened positive same
      exact .reopened name version? upgrade database there
  | close connection =>
    exact .idle _ _ rfl ⟨rfl, fun other _ => connections_close store connection other,
      fun _ _ => id⟩
  | beginTransaction connection scope mode =>
    have ends := begin_ends store connection scope mode
    simp only [step]
    generalize store.beginTransaction connection scope mode = result at ends
    cases ends with
    | closed | empty | missing => exact .idle _ _ rfl (.refl store)
    | begun database reached something present =>
      exact .begun connection scope mode database reached something present
  | request transaction collection asked =>
    have ends := request_ends store transaction collection asked
    simp only [step]
    generalize store.request transaction collection asked = result at ends
    cases ends with
    | finished | uncovered | readOnly | missing | rejected => exact .idle _ _ rfl (.refl store)
    | injected => exact .idle _ _ rfl (within_useFault store _)
    | answered active admitted calm held present answer changed success =>
      exact .answered transaction collection asked active admitted held present answer changed
        success
  | commit transaction =>
    have ends := commit_ends store transaction
    simp only [step]
    generalize store.commit transaction = result at ends
    cases ends with
    | finished => exact .idle _ _ rfl (.refl store)
    | injected => exact .idle _ _ rfl ⟨rfl, fun _ _ => id,
        fun other _ => transactions_abort store transaction other⟩
    | committed => exact .idle _ _ rfl (within_abort store transaction)
  | abort transaction => exact .idle _ _ rfl (within_abort store transaction)
  | inject | snapshot => exact .idle _ _ rfl ⟨rfl, fun _ _ => id, fun _ _ => id⟩

/-- What a command does to the connections of a store. -/
inductive Registers (store : Store) : Command → Store → Prop where
  | same (command : Command) (later : Store) (connections : later.connections = store.connections)
      (next : later.nextConnection = store.nextConnection) : Registers store command later
  | opened (name : String) (version? : Option UInt32) (upgrade : UInt32 → UInt32 → Upgrade)
      (later : Store)
      (connections : later.connections = store.connections.insert store.nextConnection name)
      (next : later.nextConnection = following store.nextConnection) :
      Registers store (.openDatabase name version? upgrade) later
  | closed (connection : Nat) : Registers store (.close connection) (store.close connection)

theorem step_registers (store : Store) (command : Command) :
    Registers store command (store.step command).2 := by
  cases command with
  | openDatabase name version? upgrade =>
    have ends := open_ends store name version? upgrade
    simp only [step]
    generalize store.openDatabase name version? upgrade = result at ends
    cases ends with
    | injected | zero | outdated | aborted => exact .same _ _ rfl rfl
    | upgraded calm positive newer success grownStore grows =>
      subst grows
      exact .opened name version? upgrade _ rfl rfl
    | reopened => exact .opened name version? upgrade _ rfl rfl
  | close connection => exact .closed connection
  | beginTransaction connection scope mode =>
    have ends := begin_ends store connection scope mode
    simp only [step]
    generalize store.beginTransaction connection scope mode = result at ends
    cases ends with
    | closed | empty | missing | begun => exact .same _ _ rfl rfl
  | request transaction collection asked =>
    have ends := request_ends store transaction collection asked
    simp only [step]
    generalize store.request transaction collection asked = result at ends
    cases ends with
    | finished | uncovered | readOnly | injected | missing | rejected | answered =>
      exact .same _ _ rfl rfl
  | commit transaction =>
    have ends := commit_ends store transaction
    simp only [step]
    generalize store.commit transaction = result at ends
    cases ends with
    | finished | injected | committed => exact .same _ _ rfl rfl
  | abort | inject | snapshot => exact .same _ _ rfl rfl

/-- Faults are pending only where they were injected. -/
theorem step_calm {store : Store} (calm : store.faults = []) {command : Command}
    (quiet : ∀ operation, command ≠ .inject operation) : (store.step command).2.faults = [] := by
  cases command with
  | inject operation => exact absurd rfl (quiet operation)
  | close | abort | snapshot => exact calm
  | openDatabase name version? upgrade =>
    have ends := open_ends store name version? upgrade
    simp only [step]
    generalize store.openDatabase name version? upgrade = result at ends
    cases ends with
    | zero | outdated | aborted | reopened => exact calm
    | injected pending =>
      rw [calm] at pending
      cases pending
    | upgraded calm positive newer success grownStore grows =>
      subst grows
      assumption
  | beginTransaction connection scope mode =>
    have ends := begin_ends store connection scope mode
    simp only [step]
    generalize store.beginTransaction connection scope mode = result at ends
    cases ends with
    | closed | empty | missing | begun => exact calm
  | request transaction collection asked => exact request_faults store _ _ _ calm
  | commit transaction =>
    have ends := commit_ends store transaction
    simp only [step]
    generalize store.commit transaction = result at ends
    cases ends with
    | finished | committed => exact calm
    | injected active running pending =>
      rw [calm] at pending
      cases pending

/-- An upgrade is the only thing that changes a version. -/
theorem StepEnds.version_le {store later : Store} {exchange : Exchange}
    (ends : store.StepEnds exchange later) (name : String) :
    (store.database name).version ≤ (later.database name).version := by
  cases ends with
  | idle _ _ idle within =>
    simp only [database, within.databases]
    exact UInt32.le_refl _
  | upgraded other version? upgrade target run newer grownStore grows =>
    subst grows
    change _ ≤ ((store.grown other target run.finish.created).database name).version
    by_cases same : name = other
    · rw [same, database_grown_self]
      exact UInt32.le_of_lt newer
    · rw [database_grown_of_ne store other _ _ same]
      exact UInt32.le_refl _
  | reopened | begun => exact UInt32.le_refl _
  | answered transaction collection asked active admitted held present answer changed success =>
    by_cases same : name = active.database
    · rw [same, database_hold_self]
      exact UInt32.le_refl _
    · rw [database_hold_of_ne store active.database collection changed same]
      exact UInt32.le_refl _

end Store

end RecordSql
