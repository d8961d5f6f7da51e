import RecordSql.Proofs.Store.Opening
import RecordSql.Proofs.Store.Transactions

/-!
What one command can do to one collection. It is kept, it is created empty by an
upgrade, or it answers a request made through a transaction on its database; no
command takes a collection away. Facts about a collection over a whole history
follow from these three cases.
-/

namespace RecordSql.Store

/-- The collection of this name after a command, by what the command did to it. -/
inductive CollectionStep (store : Store) (database collection : String) :
    Command → Option Collection → Prop where
  | kept (command : Command) :
      CollectionStep store database collection command (store.collection? database collection)
  | created (command : Command) (absent : store.collection? database collection = none) :
      CollectionStep store database collection command (some .empty)
  | answered (transaction : Nat) (asked : Request) (active : ActiveTransaction)
      (admitted : store.Admitted transaction collection asked active)
      (here : active.database = database) (calm : .request asked.kind ∉ store.faults)
      (held : Collection) (present : store.collection? database collection = some held)
      (answer : asked.Answer) (changed : Collection)
      (success : held.answer collection asked = .ok (answer, changed)) :
      CollectionStep store database collection (.request transaction collection asked)
        (some changed)

theorem request_collection (store : Store) (transaction : Nat) (name : String)
    (asked : Request) (database collection : String) :
    CollectionStep store database collection (.request transaction name asked)
      ((store.request transaction name asked).2.collection? database collection) := by
  have ends := request_ends store transaction name asked
  generalize store.request transaction name asked = result at ends
  cases ends with
  | finished | uncovered | readOnly | injected | missing | rejected => exact .kept _
  | answered active admitted calm held present answer changed success =>
    by_cases same : database = active.database ∧ collection = name
    · obtain ⟨sameDatabase, sameName⟩ := same
      subst sameDatabase sameName
      rw [collection?_hold_self]
      exact .answered transaction asked active admitted rfl calm held present answer changed success
    · rw [collection?_hold_of_ne store _ _ _ same]
      exact .kept _

theorem open_collection (store : Store) (name : String) (version? : Option UInt32)
    (upgrade : UInt32 → UInt32 → Upgrade) (database collection : String) :
    CollectionStep store database collection (.openDatabase name version? upgrade)
      ((store.openDatabase name version? upgrade).2.collection? database collection) := by
  have ends := open_ends store name version? upgrade
  generalize store.openDatabase name version? upgrade = result at ends
  cases ends with
  | injected | zero | outdated | aborted | reopened => exact .kept _
  | upgraded calm positive newer success grownStore grows =>
    subst grows
    rw [collection?_connect]
    by_cases same : database = name
    · subst same
      rw [collection?_grown_self]
      cases present : store.collection? database collection with
      | some held =>
        rw [Option.some_or, ← present]
        exact .kept _
      | none =>
        rw [Option.none_or]
        split
        · exact .created _ present
        · rw [← present]
          exact .kept _
    · rw [collection?_grown_of_ne store name _ _ same]
      exact .kept _

theorem collection?_of_databases {store other : Store} (same : store.databases = other.databases)
    (database collection : String) :
    store.collection? database collection = other.collection? database collection := by
  simp only [collection?, same]

theorem step_collection (store : Store) (command : Command) (database collection : String) :
    CollectionStep store database collection command
      ((store.step command).2.collection? database collection) := by
  cases command with
  | openDatabase name version? upgrade =>
    exact open_collection store name version? upgrade database collection
  | request transaction name asked =>
    exact request_collection store transaction name asked database collection
  | beginTransaction connection scope mode =>
    simp only [step]
    rw [collection?_of_databases (begin_databases store connection scope mode)]
    exact .kept _
  | commit transaction =>
    simp only [step]
    rw [collection?_of_databases (commit_databases store transaction)]
    exact .kept _
  | close | abort | inject | snapshot => exact .kept _

theorem step_collection_isSome (store : Store) (command : Command) (database collection : String)
    (present : (store.collection? database collection).isSome = true) :
    ((store.step command).2.collection? database collection).isSome = true := by
  have taken := step_collection store command database collection
  generalize (store.step command).2.collection? database collection = after at taken
  cases taken with
  | kept => exact present
  | created | answered => rfl

end RecordSql.Store
