import RecordSql.Proofs.Store.KeyGenerator
import RecordSql.Proofs.Store.Steps

/-!
What is true of a store after every history. A record stands under the key that
it carries and every generator is ahead of the keys that are held; connections
lead to databases that are there, and what a transaction covers is there as
well. A request is therefore refused for a missing collection only where its
transaction does not cover the collection.
-/

namespace RecordSql

namespace Collection

structure Sound (held : Collection) : Prop where
  keyed : ∀ key record, held.records.get? key = some record →
    record.get? Record.keyField = some (.integer key)
  positive : 1 ≤ held.nextKey
  ahead : held.Ahead

theorem sound_empty : Collection.empty.Sound where
  keyed := by
    intro key record found
    cases found
  positive := by decide
  ahead := Store.empty_collection_ahead

theorem keyed_hold {held : Collection} (sound : held.Sound) {key : Key} {record : Record}
    (carries : record.get? Record.keyField = some (.integer key)) (nextKey : Key) :
    ∀ other found, (held.hold key record nextKey).records.get? other = some found →
      found.get? Record.keyField = some (.integer other) := by
  intro other found present
  rcases SortedMap.get?_of_insert present with ⟨rfl, rfl⟩ | before
  · exact carries
  · exact sound.keyed other found before

theorem keyed_answer {held changed : Collection} (sound : held.Sound) {name : String}
    {asked : Request} {answer : asked.Answer}
    (success : held.answer name asked = .ok (answer, changed)) :
    ∀ key record, changed.records.get? key = some record →
      record.get? Record.keyField = some (.integer key) := by
  cases asked with
  | add record =>
    rcases add_ok success with ⟨-, -, same⟩ | ⟨named, -, same⟩
    · rw [same]
      exact keyed_hold sound (SortedMap.get?_insert_self _ _ _) _
    · rw [same]
      exact keyed_hold sound named _
  | put record =>
    rcases put_ok success with ⟨-, -, same⟩ | ⟨named, same⟩
    · rw [same]
      exact keyed_hold sound (SortedMap.get?_insert_self _ _ _) _
    · rw [same]
      exact keyed_hold sound named _
  | getAll | get key =>
    cases success
    exact sound.keyed
  | delete key =>
    cases success
    exact fun other record present => sound.keyed other record (SortedMap.get?_of_erase present)

theorem Sound.answer {held changed : Collection} (sound : held.Sound) {name : String}
    {asked : Request} {answer : asked.Answer}
    (success : held.answer name asked = .ok (answer, changed)) : changed.Sound where
  keyed := keyed_answer sound success
  positive := Int64.le_trans sound.positive (answer_advances success).grows
  ahead := (answer_advances success).ahead sound.ahead

end Collection

namespace Store

structure Sound (store : Store) : Prop where
  collections : ∀ database collection held,
    store.collection? database collection = some held → held.Sound
  versions : ∀ name database, store.databases.get? name = some database → 1 ≤ database.version
  connections : ∀ identifier name, store.connections.get? identifier = some name →
    ∃ database, store.databases.get? name = some database
  transactions : ∀ identifier active, store.transactions.get? identifier = some active →
    active.scope ≠ [] ∧ ∀ collection ∈ active.scope,
      (store.collection? active.database collection).isSome = true

theorem sound_empty : empty.Sound where
  collections := by
    intro database collection held present
    cases present
  versions := by
    intro name database found
    cases found
  connections := by
    intro identifier name reached
    cases reached
  transactions := by
    intro identifier active running
    cases running

/-- No database and no collection of the store is gone. -/
structure Keeps (store later : Store) : Prop where
  databases : ∀ name database, store.databases.get? name = some database →
    ∃ other, later.databases.get? name = some other
  collections : ∀ database collection,
    (store.collection? database collection).isSome = true →
      (later.collection? database collection).isSome = true

theorem Sound.covered {store later : Store} (sound : store.Sound) (keeps : store.Keeps later)
    {identifier : Nat} {active : ActiveTransaction}
    (running : store.transactions.get? identifier = some active) :
    active.scope ≠ [] ∧ ∀ collection ∈ active.scope,
      (later.collection? active.database collection).isSome = true := by
  obtain ⟨something, present⟩ := sound.transactions identifier active running
  exact ⟨something, fun name member => keeps.collections _ _ (present name member)⟩

theorem keeps_hold (store : Store) (name collection : String) (held : Collection) :
    store.Keeps (store.hold name collection held) where
  databases := by
    intro other database found
    by_cases same : other = name
    · subst same
      exact ⟨_, SortedMap.get?_insert_self _ _ _⟩
    · exact ⟨database, (SortedMap.get?_insert_of_ne _ same _).trans found⟩
  collections := by
    intro other otherCollection present
    by_cases same : other = name ∧ otherCollection = collection
    · rw [same.1, same.2, collection?_hold_self]
      rfl
    · rwa [collection?_hold_of_ne store _ _ _ same]

theorem keeps_grown (store : Store) (name : String) (version : UInt32)
    (created : List String) : store.Keeps (store.grown name version created) where
  databases := by
    intro other database found
    by_cases same : other = name
    · subst same
      exact ⟨_, SortedMap.get?_insert_self _ _ _⟩
    · exact ⟨database, (SortedMap.get?_insert_of_ne _ same _).trans found⟩
  collections := by
    intro other collection present
    by_cases same : other = name
    · subst same
      rw [collection?_grown_self]
      obtain ⟨held, found⟩ := Option.isSome_iff_exists.mp present
      rw [found, Option.some_or]
      rfl
    · rwa [collection?_grown_of_ne store _ _ _ same]

theorem Sound.within {store later : Store} (sound : store.Sound) (within : later.Within store) :
    later.Sound where
  collections := by
    intro database collection held present
    rw [collection?_of_databases within.databases] at present
    exact sound.collections database collection held present
  versions := by
    rw [within.databases]
    exact sound.versions
  connections := by
    intro identifier name reached
    rw [within.databases]
    exact sound.connections identifier name (within.connections identifier name reached)
  transactions := by
    intro identifier active running
    obtain ⟨something, present⟩ :=
      sound.transactions identifier active (within.transactions identifier active running)
    refine ⟨something, fun name member => ?_⟩
    rw [collection?_of_databases within.databases]
    exact present name member

theorem Sound.grown {store : Store} (sound : store.Sound) (name : String) {version : UInt32}
    (newer : (store.database name).version < version) (created : List String) :
    (store.grown name version created).Sound where
  collections := by
    intro database collection held present
    by_cases same : database = name
    · subst same
      rw [collection?_grown_self] at present
      cases before : store.collection? database collection with
      | some known =>
        rw [before, Option.some_or] at present
        cases present
        exact sound.collections database collection held before
      | none =>
        rw [before, Option.none_or] at present
        split at present
        · cases present
          exact Collection.sound_empty
        · cases present
    · rw [collection?_grown_of_ne store _ _ _ same] at present
      exact sound.collections database collection held present
  versions := by
    intro other database found
    rcases SortedMap.get?_of_insert found with ⟨-, rfl⟩ | before
    · rw [UInt32.lt_iff_toNat_lt] at newer
      rw [UInt32.le_iff_toNat_le]
      exact Nat.succ_le_of_lt (Nat.lt_of_le_of_lt (Nat.zero_le _) newer)
    · exact sound.versions other database before
  connections := by
    intro identifier other reached
    obtain ⟨database, found⟩ := sound.connections identifier other reached
    exact (keeps_grown store name version created).databases other database found
  transactions := fun _ _ running => sound.covered (keeps_grown store name version created) running

theorem Sound.connect {store : Store} (sound : store.Sound) {name : String} {database : Database}
    (there : store.databases.get? name = some database) : (store.connect name).2.Sound where
  collections := sound.collections
  versions := sound.versions
  connections := by
    intro identifier other reached
    rcases SortedMap.get?_of_insert reached with ⟨-, rfl⟩ | before
    · exact ⟨database, there⟩
    · exact sound.connections identifier other before
  transactions := sound.transactions

theorem Sound.began {store : Store} (sound : store.Sound) (database : String)
    {scope : List String} (something : scope ≠ [])
    (present : ∀ collection ∈ scope, (store.collection? database collection).isSome = true)
    (mode : AccessMode) : (store.began database scope mode).Sound where
  collections := sound.collections
  versions := sound.versions
  connections := sound.connections
  transactions := by
    intro identifier active running
    rcases SortedMap.get?_of_insert running with ⟨-, rfl⟩ | before
    · exact ⟨something, present⟩
    · exact sound.transactions identifier active before

theorem Sound.hold {store : Store} (sound : store.Sound) {name collection : String}
    {held changed : Collection} (present : store.collection? name collection = some held)
    (fine : changed.Sound) : (store.hold name collection changed).Sound where
  collections := by
    intro database other found there
    by_cases same : database = name ∧ other = collection
    · rw [same.1, same.2, collection?_hold_self] at there
      cases there
      exact fine
    · rw [collection?_hold_of_ne store _ _ _ same] at there
      exact sound.collections database other found there
  versions := by
    intro other database found
    rcases SortedMap.get?_of_insert found with ⟨rfl, rfl⟩ | before
    · obtain ⟨known, there, -⟩ := Option.bind_eq_some_iff.mp present
      simp only [Store.database, there]
      exact sound.versions other known there
    · exact sound.versions other database before
  connections := by
    intro identifier other reached
    obtain ⟨database, found⟩ := sound.connections identifier other reached
    exact (keeps_hold store name collection changed).databases other database found
  transactions := fun _ _ running =>
    sound.covered (keeps_hold store name collection changed) running

theorem StepEnds.sound {store later : Store} {exchange : Exchange}
    (ends : store.StepEnds exchange later) (sound : store.Sound) : later.Sound := by
  cases ends with
  | idle _ _ idle within => exact sound.within within
  | upgraded name version? upgrade target run newer grownStore grows =>
    subst grows
    exact (sound.grown name newer run.finish.created).connect (SortedMap.get?_insert_self _ _ _)
  | reopened name version? upgrade database there => exact sound.connect there
  | begun connection scope mode database reached something present =>
    exact sound.began database something present mode
  | answered transaction collection asked active admitted held present answer changed success =>
    exact sound.hold present ((sound.collections _ _ held present).answer success)

theorem run_sound {store : Store} (sound : store.Sound) (commands : List Command) :
    (store.run commands).Sound := by
  induction commands generalizing store with
  | nil => exact sound
  | cons command rest ih => exact ih ((store.step_ends command).sound sound)

theorem reachable_sound (commands : List Command) : (empty.run commands).Sound :=
  run_sound sound_empty commands

/-- Where the store is sound, a covered collection is always found. -/
theorem Sound.missing_iff {store : Store} (sound : store.Sound) (transaction : Nat)
    (collection : String) (asked : Request) :
    (∃ name, (store.request transaction collection asked).1 = .error (.collectionMissing name)) ↔
      ∃ active, store.transactions.get? transaction = some active ∧
        collection ∉ active.scope := by
  have ends := request_ends store transaction collection asked
  generalize store.request transaction collection asked = result at ends
  have uncovered : ∀ active, store.Admitted transaction collection asked active →
      ¬∃ other, store.transactions.get? transaction = some other ∧ collection ∉ other.scope := by
    rintro active admitted ⟨other, running, outside⟩
    cases admitted.running.symm.trans running
    exact outside admitted.covered
  cases ends with
  | finished absent =>
    refine iff_of_false (by rintro ⟨_, ⟨⟩⟩) ?_
    rintro ⟨active, running, -⟩
    cases absent.symm.trans running
  | uncovered active running outside => exact iff_of_true ⟨_, rfl⟩ ⟨active, running, outside⟩
  | readOnly active running covered writes mode =>
    refine iff_of_false (by rintro ⟨_, ⟨⟩⟩) ?_
    rintro ⟨other, also, outside⟩
    cases running.symm.trans also
    exact outside covered
  | injected active admitted pending =>
    exact iff_of_false (by rintro ⟨_, ⟨⟩⟩) (uncovered active admitted)
  | missing active admitted calm absent =>
    have present := (sound.transactions transaction active admitted.running).2 collection
      admitted.covered
    rw [absent] at present
    cases present
  | rejected active admitted calm held present cause refusal =>
    refine iff_of_false ?_ (uncovered active admitted)
    rintro ⟨name, told⟩
    cases told
    exact Collection.refusal_found refusal rfl
  | answered active admitted calm held present answer changed success =>
    exact iff_of_false (by rintro ⟨_, ⟨⟩⟩) (uncovered active admitted)

/-- After every history the store is sound, and no request on a collection that
its transaction covers is refused because the collection is missing. -/
theorem every_history_is_sound (commands : List Command) :
    (empty.run commands).Sound ∧ ∀ transaction collection asked,
      (∃ name, ((empty.run commands).request transaction collection asked).1 =
        .error (.collectionMissing name)) ↔
      ∃ active, (empty.run commands).transactions.get? transaction = some active ∧
        collection ∉ active.scope :=
  ⟨reachable_sound commands, (reachable_sound commands).missing_iff⟩

end Store

end RecordSql
