import RecordSql.Proofs.Store.Steps

/-!
What a failed command leaves behind. Every check of a command comes before its
first change, so an error leaves the store as it was, up to the fault that it
reports. Only a commit that is made to fail ends its transaction nevertheless.
-/

namespace RecordSql

/-- The faults that are still pending after an error. -/
def StoreError.leaves (cause : StoreError) (pending : List Operation) : List Operation :=
  match cause with
  | .injected operation => pending.erase operation
  | _ => pending

/-- A command has failed and left the store as it was. -/
structure Store.Unharmed (store : Store) (command : Command) (cause : StoreError)
    (later : Store) : Prop where
  databases : later.databases = store.databases
  connections : later.connections = store.connections
  nextConnection : later.nextConnection = store.nextConnection
  nextTransaction : later.nextTransaction = store.nextTransaction
  faults : later.faults = cause.leaves store.faults
  /-- What is reported as injected was pending. -/
  reported : ∀ operation, cause = .injected operation → operation ∈ store.faults
  transactions : later.transactions = store.transactions ∨
    ∃ transaction, command = .commit transaction ∧ cause = .injected .commit ∧
      later.transactions = store.transactions.erase transaction

/-- An error that no fault was needed for. -/
def StoreError.IsGenuine (cause : StoreError) : Prop := ∀ operation, cause ≠ .injected operation

theorem StoreError.leaves_of_isGenuine {cause : StoreError} (genuine : cause.IsGenuine)
    (pending : List Operation) : cause.leaves pending = pending := by
  cases cause with
  | injected operation => exact absurd rfl (genuine operation)
  | _ => rfl

theorem Collection.refusal_isGenuine {held : Collection} {name : String} {asked : Request}
    {cause : StoreError} (refusal : held.answer name asked = .error cause) :
    cause.IsGenuine := by
  rintro operation rfl
  rcases refusal_cases refusal with ⟨key, injected⟩ | ⟨value, injected⟩ <;> cases injected

namespace Store

theorem unharmed_refl (store : Store) (command : Command) {cause : StoreError}
    (genuine : cause.IsGenuine) : store.Unharmed command cause store where
  databases := rfl
  connections := rfl
  nextConnection := rfl
  nextTransaction := rfl
  faults := (StoreError.leaves_of_isGenuine genuine _).symm
  reported := fun operation same => absurd same (genuine operation)
  transactions := .inl rfl

theorem unharmed_useFault (store : Store) (command : Command) {operation : Operation}
    (pending : operation ∈ store.faults) :
    store.Unharmed command (.injected operation) (store.useFault operation) where
  databases := rfl
  connections := rfl
  nextConnection := rfl
  nextTransaction := rfl
  faults := rfl
  reported := by
    rintro other ⟨⟩
    exact pending
  transactions := .inl rfl

theorem open_unharmed {store : Store} {name : String} {version? : Option UInt32}
    {upgrade : UInt32 → UInt32 → Upgrade} {cause : StoreError}
    (failed : (store.openDatabase name version? upgrade).1.result = .error cause) :
    store.Unharmed (.openDatabase name version? upgrade) cause
      (store.openDatabase name version? upgrade).2 := by
  have ends := open_ends store name version? upgrade
  generalize store.openDatabase name version? upgrade = result at ends failed
  cases ends with
  | injected pending =>
    cases failed
    exact unharmed_useFault store _ pending
  | zero | outdated | aborted =>
    -- What an upgrade has created so far is in its schema alone.
    cases failed
    exact unharmed_refl store _ (by rintro operation ⟨⟩)
  | upgraded | reopened => cases failed

theorem begin_unharmed {store : Store} {connection : Nat} {scope : List String}
    {mode : AccessMode} {cause : StoreError}
    (failed : (store.beginTransaction connection scope mode).1 = .error cause) :
    store.Unharmed (.beginTransaction connection scope mode) cause
      (store.beginTransaction connection scope mode).2 := by
  have ends := begin_ends store connection scope mode
  generalize store.beginTransaction connection scope mode = result at ends failed
  cases ends with
  | closed | empty | missing =>
    cases failed
    exact unharmed_refl store _ (by rintro operation ⟨⟩)
  | begun => cases failed

theorem request_unharmed {store : Store} {transaction : Nat} {collection : String}
    {asked : Request} {cause : StoreError}
    (failed : (store.request transaction collection asked).1 = .error cause) :
    store.Unharmed (.request transaction collection asked) cause
      (store.request transaction collection asked).2 := by
  have ends := request_ends store transaction collection asked
  generalize store.request transaction collection asked = result at ends failed
  cases ends with
  | finished | uncovered | readOnly | missing =>
    cases failed
    exact unharmed_refl store _ (by rintro operation ⟨⟩)
  | injected active admitted pending =>
    cases failed
    exact unharmed_useFault store _ pending
  | rejected active admitted calm held present told refusal =>
    cases failed
    exact unharmed_refl store _ (Collection.refusal_isGenuine refusal)
  | answered => cases failed

theorem commit_unharmed {store : Store} {transaction : Nat} {cause : StoreError}
    (failed : (store.commit transaction).1 = .error cause) :
    store.Unharmed (.commit transaction) cause (store.commit transaction).2 := by
  have ends := commit_ends store transaction
  generalize store.commit transaction = result at ends failed
  cases ends with
  | finished =>
    cases failed
    exact unharmed_refl store _ (by rintro operation ⟨⟩)
  | injected active running pending =>
    cases failed
    have used := unharmed_useFault store (.commit transaction) pending
    exact ⟨rfl, rfl, rfl, rfl, rfl, used.reported, .inr ⟨transaction, rfl, rfl, rfl⟩⟩
  | committed => cases failed

/-- A command that replies with an error has changed nothing but the faults, and a
commit also its own transaction. -/
theorem step_unharmed {store : Store} {command : Command} {cause : StoreError}
    (failed : command.error? (store.step command).1 = some cause) :
    store.Unharmed command cause (store.step command).2 := by
  have told : ∀ {Answer : Type} {reply : Except StoreError Answer},
      Command.errorIn reply = some cause → reply = .error cause := by
    rintro Answer (other | answer) same
    · rw [Option.some.inj same]
    · cases same
  cases command with
  | openDatabase => exact open_unharmed (told failed)
  | beginTransaction => exact begin_unharmed (told failed)
  | request => exact request_unharmed (told failed)
  | commit => exact commit_unharmed (told failed)
  | close | abort | inject | snapshot => cases failed

end Store

end RecordSql
