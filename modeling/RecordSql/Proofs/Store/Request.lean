import RecordSql.Proofs.SortedMap
import RecordSql.Store.Command

/-!
How a request on records can end. The checks come in a fixed order, and each
ending below carries the checks that were passed before it, so that what is
known after a request is read off its ending alone.
-/

namespace RecordSql

/-- A request that its transaction covers and allows. -/
structure Store.Admitted (store : Store) (transaction : Nat) (collection : String)
    (asked : Request) (active : ActiveTransaction) : Prop where
  running : store.transactions.get? transaction = some active
  covered : collection ∈ active.scope
  allowed : ¬(asked.kind.isWrite = true ∧ active.mode = .readOnly)

/-- A collection refuses a record for its key alone: it is taken, or it is no integer. -/
theorem Collection.refusal_cases {held : Collection} {name : String} {asked : Request}
    {cause : StoreError} (refusal : held.answer name asked = .error cause) :
    (∃ key, cause = .keyTaken key name) ∨ ∃ value, cause = .keyNotInteger value := by
  cases asked with
  | getAll | get | delete => cases refusal
  | add record =>
    simp only [answer, add] at refusal
    split at refusal
    · cases refusal
    · split at refusal
      · cases refusal
        exact .inl ⟨_, rfl⟩
      · cases refusal
    · cases refusal
      exact .inr ⟨_, rfl⟩
  | put record =>
    simp only [answer, put] at refusal
    split at refusal
    · cases refusal
    · cases refusal
    · cases refusal
      exact .inr ⟨_, rfl⟩

theorem Collection.refusal_kind {held : Collection} {name : String} {asked : Request}
    {cause : StoreError} (refusal : held.answer name asked = .error cause) :
    cause.kind = .constraint ∨ cause.kind = .data := by
  rcases refusal_cases refusal with ⟨key, rfl⟩ | ⟨value, rfl⟩
  · exact .inl rfl
  · exact .inr rfl

/-- A collection never answers that it is missing. -/
theorem Collection.refusal_found {held : Collection} {name : String} {asked : Request}
    {cause : StoreError} (refusal : held.answer name asked = .error cause) :
    cause.kind ≠ .notFound := by
  rcases refusal_kind refusal with kind | kind <;> rw [kind] <;> rintro ⟨⟩

namespace Store

def useFault (store : Store) (operation : Operation) : Store :=
  { store with faults := store.faults.erase operation }

theorem takeFault?_of_mem (store : Store) (operation : Operation)
    (pending : operation ∈ store.faults) :
    store.takeFault? operation = some (store.useFault operation) := by
  simp [takeFault?, pending, useFault]

theorem takeFault?_of_not_mem (store : Store) (operation : Operation)
    (calm : operation ∉ store.faults) : store.takeFault? operation = none := by
  simp [takeFault?, calm]

inductive RequestEnds (store : Store) (transaction : Nat) (collection : String)
    (asked : Request) : Except StoreError asked.Answer × Store → Prop where
  | finished (absent : store.transactions.get? transaction = none) :
      RequestEnds store transaction collection asked (.error .transactionFinished, store)
  | uncovered (active : ActiveTransaction)
      (running : store.transactions.get? transaction = some active)
      (outside : collection ∉ active.scope) :
      RequestEnds store transaction collection asked
        (.error (.collectionMissing collection), store)
  | readOnly (active : ActiveTransaction)
      (running : store.transactions.get? transaction = some active)
      (covered : collection ∈ active.scope) (writes : asked.kind.isWrite = true)
      (mode : active.mode = .readOnly) :
      RequestEnds store transaction collection asked (.error .readOnlyTransaction, store)
  | injected (active : ActiveTransaction)
      (admitted : store.Admitted transaction collection asked active)
      (pending : .request asked.kind ∈ store.faults) :
      RequestEnds store transaction collection asked
        (.error (.injected (.request asked.kind)), store.useFault (.request asked.kind))
  | missing (active : ActiveTransaction)
      (admitted : store.Admitted transaction collection asked active)
      (calm : .request asked.kind ∉ store.faults)
      (absent : store.collection? active.database collection = none) :
      RequestEnds store transaction collection asked
        (.error (.collectionMissing collection), store)
  | rejected (active : ActiveTransaction)
      (admitted : store.Admitted transaction collection asked active)
      (calm : .request asked.kind ∉ store.faults) (held : Collection)
      (present : store.collection? active.database collection = some held)
      (cause : StoreError) (refusal : held.answer collection asked = .error cause) :
      RequestEnds store transaction collection asked (.error cause, store)
  | answered (active : ActiveTransaction)
      (admitted : store.Admitted transaction collection asked active)
      (calm : .request asked.kind ∉ store.faults) (held : Collection)
      (present : store.collection? active.database collection = some held)
      (answer : asked.Answer) (changed : Collection)
      (success : held.answer collection asked = .ok (answer, changed)) :
      RequestEnds store transaction collection asked
        (.ok answer, store.hold active.database collection changed)

theorem request_ends (store : Store) (transaction : Nat) (collection : String)
    (asked : Request) :
    RequestEnds store transaction collection asked
      (store.request transaction collection asked) := by
  simp only [request]
  cases running : store.transactions.get? transaction with
  | none => exact .finished running
  | some active =>
    by_cases covered : collection ∈ active.scope
    · simp only [covered, not_true_eq_false, ↓reduceIte]
      by_cases refused : asked.kind.isWrite = true ∧ active.mode = .readOnly
      · simp only [refused, and_self, ↓reduceIte]
        exact .readOnly active running covered refused.1 refused.2
      · simp only [refused, ↓reduceIte]
        have admitted : store.Admitted transaction collection asked active :=
          ⟨running, covered, refused⟩
        by_cases pending : .request asked.kind ∈ store.faults
        · rw [takeFault?_of_mem store _ pending]
          exact .injected active admitted pending
        · rw [takeFault?_of_not_mem store _ pending]
          cases present : store.collection? active.database collection with
          | none => exact .missing active admitted pending present
          | some held =>
            dsimp only
            cases answered : held.answer collection asked with
            | error cause =>
              exact .rejected active admitted pending held present cause answered
            | ok result =>
              exact .answered active admitted pending held present result.1 result.2 answered
    · simp only [covered, not_false_eq_true, ↓reduceIte]
      exact .uncovered active running covered

theorem request_ok {store next : Store} {transaction : Nat} {collection : String}
    {asked : Request} {answer : asked.Answer}
    (success : store.request transaction collection asked = (.ok answer, next)) :
    ∃ active held changed, store.Admitted transaction collection asked active ∧
      store.collection? active.database collection = some held ∧
      held.answer collection asked = .ok (answer, changed) ∧
      next = store.hold active.database collection changed := by
  have ends := request_ends store transaction collection asked
  rw [success] at ends
  cases ends with
  | answered active admitted calm held present answer changed answered =>
    exact ⟨active, held, changed, admitted, present, answered, rfl⟩

section Hold

variable (store : Store) (name collection : String) (held : Collection)

theorem database_hold_self : (store.hold name collection held).database name =
    { store.database name with
      collections := (store.database name).collections.insert collection held } := by
  simp [hold, database]

theorem database_hold_of_ne {other : String} (differ : other ≠ name) :
    (store.hold name collection held).database other = store.database other := by
  simp [hold, database, SortedMap.get?_insert_of_ne _ differ]

theorem collection?_eq_database (other : String) :
    store.collection? name other = (store.database name).collections.get? other := by
  cases found : store.databases.get? name with
  | none => simp [collection?, database, found, Database.empty]
  | some database => simp [collection?, Store.database, found]

theorem collection?_hold_self :
    (store.hold name collection held).collection? name collection = some held := by
  simp [collection?_eq_database, database_hold_self]

theorem collection?_hold_of_ne {otherName other : String}
    (differ : ¬(otherName = name ∧ other = collection)) :
    (store.hold name collection held).collection? otherName other =
      store.collection? otherName other := by
  simp only [collection?_eq_database]
  by_cases sameName : otherName = name
  · subst sameName
    have differs : other ≠ collection := fun same => differ ⟨rfl, same⟩
    rw [database_hold_self, SortedMap.get?_insert_of_ne _ differs]
  · rw [database_hold_of_ne store name collection held sameName]

theorem hold_of_collection? (present : store.collection? name collection = some held) :
    store.hold name collection held = store := by
  obtain ⟨database, found, inside⟩ := Option.bind_eq_some_iff.mp present
  have known : store.database name = database := by simp [Store.database, found]
  have same : (store.database name).collections.insert collection held =
      (store.database name).collections :=
    SortedMap.insert_of_get? _ (by rw [known]; exact inside)
  simp only [hold]
  rw [same, known, SortedMap.insert_of_get? _ found]

end Hold

theorem request_get (store : Store) (transaction : Nat) (collection : String) (key : Key)
    (calm : store.faults = []) :
    (store.request transaction collection (.get key)).2 = store := by
  have ends := request_ends store transaction collection (.get key)
  generalize store.request transaction collection (.get key) = result at ends
  cases ends with
  | finished | uncovered | readOnly | missing | rejected => rfl
  | injected active admitted pending =>
    rw [calm] at pending
    cases pending
  | answered active admitted quiet held present answer changed success =>
    cases success
    exact hold_of_collection? store _ _ _ present

theorem request_transactions (store : Store) (transaction : Nat) (collection : String)
    (asked : Request) :
    (store.request transaction collection asked).2.transactions = store.transactions := by
  have ends := request_ends store transaction collection asked
  generalize store.request transaction collection asked = result at ends
  cases ends with
  | finished | uncovered | readOnly | injected | missing | rejected | answered => rfl

theorem request_faults (store : Store) (transaction : Nat) (collection : String)
    (asked : Request) (calm : store.faults = []) :
    (store.request transaction collection asked).2.faults = [] := by
  have ends := request_ends store transaction collection asked
  generalize store.request transaction collection asked = result at ends
  cases ends with
  | finished | uncovered | readOnly | missing | rejected | answered => exact calm
  | injected active admitted pending =>
    rw [calm] at pending
    cases pending

end Store

end RecordSql
