import RecordSql.Proofs.Store.Readings
import RecordSql.Proofs.Transaction.Halves

/-!
What an update does to the records. It reads under the key of its condition and
writes under the key that the merged record carries. These are one key unless an
assignment names another one, and only then does an update reach a record that
is not its own.
-/

namespace RecordSql

/-- The key of the record that an update writes. -/
def Plan.writtenKey (key : Key) (updates : Record) : Key :=
  match updates.get? Record.keyField with
  | some (.integer other) => other
  | _ => key

namespace Store

/-- A plan from its first request to its end, with no other request in between. -/
def executePlan (store : Store) (transaction : Nat) (plan : Plan) : Outcome × Store :=
  let (half, store) := store.firstHalf transaction plan
  store.secondHalf transaction half

/-- What executing a statement comes to. -/
theorem execute_eq_executePlan (store : Store) (transaction : Nat) {mode : CollectionMode}
    {issued : Issued} {plan : Plan} (planned : issued.statement.planned mode = .ok plan) :
    store.execute mode transaction issued = store.executePlan transaction plan :=
  execute_planned store transaction planned

/-- An update of the record under `key` that writes under `written`: no other record
changes, and if a record is reported as changed, then the written one has the
assigned values in the assigned fields and in all others what stood under `key`. -/
structure Rewrites (store : Store) (transaction : Nat) (collection : String)
    (key written : Key) (updates : Record) : Prop where
  others : ∀ name table other,
    (store.executePlan transaction (.update collection key updates)).2.record? name table other =
        store.record? name table other ∨
      (∃ active, store.transactions.get? transaction = some active ∧ active.database = name) ∧
        table = collection ∧ other = written
  assigned : ∀ result,
    (store.executePlan transaction (.update collection key updates)).1 = .ok result →
    result.rowsAffected? = some 1 →
    ∃ active record, store.transactions.get? transaction = some active ∧
      (store.executePlan transaction (.update collection key updates)).2.record?
        active.database collection written = some record ∧
      ∀ field, record.get? field = (updates.get? field).or
        (((store.record? active.database collection key).getD (.ofKey key)).get? field)

/-- How an update can end in a sound store. -/
inductive UpdateEnds (store : Store) (transaction : Nat) (collection : String) (key : Key)
    (updates : Record) : Outcome × Store → Prop where
  | failed (cause : Failure) (later : Store) (databases : later.databases = store.databases) :
      UpdateEnds store transaction collection key updates (.error cause, later)
  | written (active : ActiveTransaction)
      (running : store.transactions.get? transaction = some active) (held : Collection)
      (present : store.collection? active.database collection = some held) (nextKey : Key) :
      UpdateEnds store transaction collection key updates
        (.ok (.affected 1), store.hold active.database collection
          (held.hold (Plan.writtenKey key updates)
            (Call.merged key updates (held.records.get? key)) nextKey))

/-- The record that an update starts from carries the key it was asked for. -/
theorem Sound.source_keyed {store : Store} (sound : store.Sound) {name collection : String}
    {held : Collection} (present : store.collection? name collection = some held) (key : Key) :
    ((held.records.get? key).getD (.ofKey key)).get? Record.keyField = some (.integer key) := by
  cases found : held.records.get? key with
  | none => exact SortedMap.get?_insert_self _ _ _
  | some record => exact (sound.collections name collection held present).keyed key record found

/-- A merged record is put under the key that it carries. -/
theorem put_merged {held changed : Collection} {key answer : Key} {updates source : Record}
    (keyed : source.get? Record.keyField = some (.integer key))
    (success : held.put (source.merge updates) = .ok (answer, changed)) :
    changed = held.hold (Plan.writtenKey key updates) (source.merge updates)
      (held.pass answer) := by
  have carried := SortedMap.get?_merge source updates Record.keyField
  rw [keyed] at carried
  rcases Collection.put_ok success with ⟨unnamed, -, -⟩ | ⟨named, same⟩
  · rw [unnamed] at carried
    cases assigned : updates.get? Record.keyField with
    | none | some value =>
      rw [assigned] at carried
      cases carried
  · rw [named] at carried
    have target : Plan.writtenKey key updates = answer := by
      simp only [Plan.writtenKey]
      cases assigned : updates.get? Record.keyField with
      | none | some value =>
        rw [assigned] at carried
        cases carried
        rfl
    rw [target]
    exact same

theorem Sound.update_ends {store : Store} (sound : store.Sound) (transaction : Nat)
    (collection : String) (key : Key) (updates : Record) :
    store.UpdateEnds transaction collection key updates
      (store.executePlan transaction (.update collection key updates)) := by
  have reads := request_ends store transaction collection (.get key)
  simp only [executePlan, firstHalf]
  generalize store.request transaction collection (.get key) = reply at reads
  cases reads with
  | finished | uncovered | readOnly | missing | rejected => exact .failed _ store rfl
  | injected => exact .failed _ _ rfl
  | answered active admitted calm held present answer changed success =>
    cases success
    rw [hold_of_collection? store _ _ held present]
    have writes := request_ends store transaction collection
      (.put (Call.merged key updates (held.records.get? key)))
    simp only [secondHalf]
    generalize store.request transaction collection
      (.put (Call.merged key updates (held.records.get? key))) = second at writes
    cases writes with
    | finished | uncovered | readOnly | missing | rejected => exact .failed _ store rfl
    | injected => exact .failed _ _ rfl
    | answered other also _ there found answer changed success =>
      cases admitted.running.symm.trans also.running
      cases present.symm.trans found
      rw [put_merged (sound.source_keyed present key) success]
      exact .written active admitted.running held present _

section Ends

variable {store : Store} {transaction : Nat} {collection : String} {key : Key}
  {updates : Record}

theorem UpdateEnds.databases {done : Outcome × Store}
    (ends : store.UpdateEnds transaction collection key updates done)
    (failed : done.1.isOk = false) : done.2.databases = store.databases := by
  cases ends with
  | failed cause later databases => exact databases
  | written => cases failed

theorem rewrites_of_failed
    (failed : (store.executePlan transaction (.update collection key updates)).1.isOk = false)
    (databases : (store.executePlan transaction (.update collection key updates)).2.databases =
      store.databases) (written : Key) :
    store.Rewrites transaction collection key written updates where
  others := by
    intro name table other
    left
    rw [record?, record?, collection?_of_databases databases]
  assigned := by
    intro result told
    rw [told] at failed
    cases failed

theorem UpdateEnds.rewrites
    (ends : store.UpdateEnds transaction collection key updates
      (store.executePlan transaction (.update collection key updates))) :
    store.Rewrites transaction collection key (Plan.writtenKey key updates) updates := by
  generalize done : store.executePlan transaction (.update collection key updates) = settled
    at ends
  cases ends with
  | failed cause later databases =>
    apply rewrites_of_failed
    · rw [done]
      rfl
    · rw [done]
      exact databases
  | written active running held present nextKey =>
    constructor
    · intro name table other
      rw [done]
      by_cases here : name = active.database ∧ table = collection
      · obtain ⟨rfl, rfl⟩ := here
        rw [record?_hold_self, record?, present, Option.bind_some, Collection.hold,
          SortedMap.get?_insert]
        by_cases same : other = Plan.writtenKey key updates
        · exact .inr ⟨⟨active, running, rfl⟩, rfl, same⟩
        · exact .inl (if_neg same)
      · exact .inl (record?_hold_of_ne _ here other)
    · intro result told reports
      refine ⟨active, Call.merged key updates (held.records.get? key), running, ?_, ?_⟩
      · rw [done, record?_hold_self]
        exact SortedMap.get?_insert_self _ _ _
      · intro field
        rw [record?, present, Option.bind_some]
        exact SortedMap.get?_merge _ updates field

/-- An update that has written under another key has not updated its own record. -/
theorem UpdateEnds.rewrites_own_iff (sound : store.Sound)
    (ends : store.UpdateEnds transaction collection key updates
      (store.executePlan transaction (.update collection key updates))) :
    store.Rewrites transaction collection key key updates ↔
      Plan.writtenKey key updates = key ∨
        (store.executePlan transaction (.update collection key updates)).1.isOk = false := by
  constructor
  · intro own
    by_cases same : Plan.writtenKey key updates = key
    · exact .inl same
    · right
      have assigned := own.assigned
      generalize store.executePlan transaction (.update collection key updates) = settled
        at ends assigned
      cases ends with
      | failed => rfl
      | written active running held present nextKey =>
        obtain ⟨other, record, also, found, fields⟩ := assigned _ rfl rfl
        cases running.symm.trans also
        -- What stands under `key` is not the written record, so it still carries `key`.
        rw [record?_hold_self, Collection.hold, SortedMap.get?_insert, if_neg (Ne.symm same)]
          at found
        have carried := (sound.collections _ _ held present).keyed key record found
        rw [fields] at carried
        simp only [Plan.writtenKey] at same
        split at same
        · rename_i named
          rw [named] at carried
          cases carried
          exact absurd rfl same
        · exact absurd rfl same
  · rintro (same | failed)
    · have rewrites := ends.rewrites
      rwa [same] at rewrites
    · exact rewrites_of_failed failed (ends.databases failed) key

end Ends

/-- An update touches its own record alone, unless it assigns the field of the key
and is carried out. In any case it writes under the key that was assigned. -/
theorem update_rewrites_own_unless_rekeyed (commands : List Command) (transaction : Nat)
    (collection : String) (key : Key) (updates : Record) :
    ((empty.run commands).Rewrites transaction collection key key updates ↔
      Plan.writtenKey key updates = key ∨
        ((empty.run commands).executePlan transaction
          (.update collection key updates)).1.isOk = false) ∧
    (empty.run commands).Rewrites transaction collection key (Plan.writtenKey key updates)
      updates := by
  have sound := reachable_sound commands
  have ends := sound.update_ends transaction collection key updates
  exact ⟨ends.rewrites_own_iff sound, ends.rewrites⟩

def rekeying : Statement :=
  ⟨"UPDATE t SET id=? WHERE id = ?", [.integer 7, .integer 1], none, none⟩

/-- A collection with one record, which has the key 7 and another field. -/
def holdingSeven : Store :=
  empty.run
    [.openDatabase "notes" none fun _ _ => .createMissing ["t"] .finish,
      .beginTransaction 0 ["t"] .readWrite,
      .request 0 "t" (.add ((Record.ofKey 7).insert "b" (.integer 5)))]

/-- The record under 7 is replaced by an update of the one under 1. -/
theorem rekeying_replaces_another :
    holdingSeven.execute .perStatement 0 ⟨.top 0, rekeying⟩ =
      holdingSeven.executePlan 0 (.update "t" 1 (.ofKey 7)) ∧
    (holdingSeven.executePlan 0 (.update "t" 1 (.ofKey 7))).1 = .ok (.affected 1) ∧
    ¬holdingSeven.Rewrites 0 "t" 1 1 (.ofKey 7) := by
  refine ⟨execute_eq_executePlan holdingSeven 0 rfl, rfl, ?_⟩
  intro own
  rcases own.others "notes" "t" 7 with kept | ⟨-, -, same⟩
  · have lost := congrArg (fun record? => record?.bind fun record => record.get? "b") kept
    cases lost
  · exact absurd same (by decide)

end Store

end RecordSql
