import RecordSql.Proofs.Store.KeyGenerator

/-!
Requests that do not meet. A request about one key of a collection reads and changes what is
held under that key alone, and it moves the key generator by a maximum. Two requests in
different places, or about different keys of one place, can therefore be exchanged.
-/

namespace RecordSql

/-- The key that a request is about, where it is about a single one. -/
def Request.key? : Request → Option Key
  | .get key | .delete key => some key
  | .add record | .put record => record.id?
  | .getAll => none

theorem Record.keyField_of_id? {record : Record} {key : Key} (named : record.id? = some key) :
    record.get? keyField = some (.integer key) := by
  obtain ⟨value, found, whole⟩ := Option.bind_eq_some_iff.mp named
  cases value with
  | integer number =>
    cases whole
    exact found
  | null | bool | real | text | timestamp | blob | json => cases whole

namespace Collection

/-- What a request about one key does under that key. -/
inductive Effect where
  | keep
  | remove
  | hold (record : Record)

def apply (held : Collection) (key : Key) : Effect → Collection
  | .keep => held
  | .remove => held.delete key
  | .hold record => held.hold key record (held.pass key)

/-- The reply to a request with the collection that it leaves, also where it is refused. -/
def serve (held : Collection) (name : String) (asked : Request) :
    Except StoreError asked.Answer × Collection :=
  match held.answer name asked with
  | .error cause => (.error cause, held)
  | .ok (answer, changed) => (.ok answer, changed)

section Keys

variable {key other : Key}

theorem get?_apply_of_ne (held : Collection) (differ : other ≠ key) (effect : Effect) :
    (held.apply key effect).records.get? other = held.records.get? other := by
  cases effect with
  | keep => rfl
  | remove => exact SortedMap.get?_erase_of_ne _ differ
  | hold record => exact SortedMap.get?_insert_of_ne _ differ record

theorem toInt_pass (held : Collection) (key : Key) :
    (held.pass key).toInt = max held.nextKey.toInt key.next.toInt := by
  simp only [pass, Int64.le_iff_toInt_le]
  by_cases stopped : key = Key.greatest
  · have bound := Int64.le_iff_toInt_le.mp (Key.le_greatest held.nextKey)
    subst stopped
    rw [Key.next_greatest, if_pos bound]
    omega
  · have next := key.toInt_next stopped
    split <;> omega

theorem pass_hold_comm (held : Collection) (record later : Record) :
    (held.hold key record (held.pass key)).pass other =
      (held.hold other later (held.pass other)).pass key := by
  apply Int64.toInt_inj.mp
  simp only [toInt_pass, hold]
  omega

/-- Effects under different keys can be exchanged; the generator takes the maximum of both. -/
theorem apply_comm (held : Collection) (differ : key ≠ other) (effect later : Effect) :
    (held.apply key effect).apply other later = (held.apply other later).apply key effect := by
  have passes : ∀ gone asked, (held.delete gone).pass asked = held.pass asked :=
    fun _ _ => rfl
  cases effect with
  | keep => rfl
  | remove =>
    cases later with
    | keep => rfl
    | remove => simp [apply, delete, SortedMap.erase_comm _ differ]
    | hold record =>
      simp only [apply, passes]
      simp [delete, hold, SortedMap.erase_insert_comm _ (Ne.symm differ)]
  | hold record =>
    cases later with
    | keep => rfl
    | remove =>
      simp only [apply, passes]
      simp [delete, hold, SortedMap.erase_insert_comm _ differ]
    | hold second =>
      simp only [apply]
      rw [held.pass_hold_comm record second]
      simp [hold, SortedMap.insert_comm _ differ]

/-- A request about one key is decided by what is held under that key. -/
theorem serve_of_key? {asked : Request} (about : asked.key? = some key) (name : String) :
    ∃ decision : Option Record → Except StoreError asked.Answer × Effect, ∀ held : Collection,
      held.serve name asked =
        let decided := decision (held.records.get? key)
        (decided.1, held.apply key decided.2) := by
  cases asked with
  | getAll => cases about
  | get =>
    cases about
    exact ⟨fun found => (.ok found, .keep), fun held => rfl⟩
  | delete =>
    cases about
    exact ⟨fun found => (.ok (), .remove), fun held => rfl⟩
  | put record =>
    have named := Record.keyField_of_id? about
    refine ⟨fun found => (.ok key, .hold record), fun held => ?_⟩
    simp [serve, answer, put, named, apply]
  | add record =>
    have named := Record.keyField_of_id? about
    refine ⟨fun found =>
      if found.isSome then (.error (.keyTaken key name), .keep) else (.ok key, .hold record),
      fun held => ?_⟩
    simp only [serve, answer, add, named, SortedMap.contains]
    by_cases taken : (held.records.get? key).isSome = true
    · simp [taken, apply]
    · simp [taken, apply]

theorem serve_comm (held : Collection) (name : String) {first second : Request}
    (about : first.key? = some key) (later : second.key? = some other) (differ : key ≠ other) :
    ((held.serve name first).2.serve name second).1 = (held.serve name second).1 ∧
      ((held.serve name first).2.serve name second).2 =
        ((held.serve name second).2.serve name first).2 := by
  obtain ⟨decideFirst, firstServed⟩ := serve_of_key? about name
  obtain ⟨decideSecond, secondServed⟩ := serve_of_key? later name
  -- Neither request changes what the other one is decided by.
  simp only [firstServed, secondServed, get?_apply_of_ne _ differ,
    get?_apply_of_ne _ (Ne.symm differ), true_and]
  exact held.apply_comm differ _ _

end Keys

end Collection

namespace ActiveTransaction

/-- Why a transaction does not let a request through. -/
def refusal? (active : ActiveTransaction) (collection : String) (asked : Request) :
    Option StoreError :=
  if collection ∉ active.scope then some (.collectionMissing collection)
  else if asked.kind.isWrite = true ∧ active.mode = .readOnly then some .readOnlyTransaction
  else none

/-- The reply to a request through a transaction, with what it leaves in its place. -/
def serve (active : ActiveTransaction) (collection : String) (asked : Request)
    (held? : Option Collection) : Except StoreError asked.Answer × Option Collection :=
  match active.refusal? collection asked, held? with
  | some cause, held? => (.error cause, held?)
  | none, none => (.error (.collectionMissing collection), none)
  | none, some held =>
      ((held.serve collection asked).1, some (held.serve collection asked).2)

theorem serve_none (active : ActiveTransaction) (collection : String) (asked : Request) :
    (active.serve collection asked none).2 = none := by
  simp only [serve]
  cases active.refusal? collection asked with
  | none | some => rfl

theorem serve_some (active : ActiveTransaction) (collection : String) (asked : Request)
    (held : Collection) :
    ∃ changed, (active.serve collection asked (some held)).2 = some changed := by
  simp only [serve]
  cases active.refusal? collection asked with
  | none | some => exact ⟨_, rfl⟩

/-- What two requests about different keys do to one place, in either order. -/
theorem serve_comm {first second : Request} {key other : Key} (about : first.key? = some key)
    (later : second.key? = some other) (differ : key ≠ other)
    (active joined : ActiveTransaction) (collection : String) (held? : Option Collection) :
    (joined.serve collection second (active.serve collection first held?).2).1 =
        (joined.serve collection second held?).1 ∧
      (joined.serve collection second (active.serve collection first held?).2).2 =
        (active.serve collection first (joined.serve collection second held?).2).2 := by
  cases held? with
  | none => simp only [serve_none, and_self]
  | some held =>
    obtain ⟨same, left⟩ := held.serve_comm collection about later differ
    simp only [serve]
    cases active.refusal? collection first with
    | some cause =>
      cases joined.refusal? collection second with
      | none | some => exact ⟨rfl, rfl⟩
    | none =>
      cases joined.refusal? collection second with
      | some => exact ⟨rfl, rfl⟩
      | none => exact ⟨same, congrArg some left⟩

end ActiveTransaction

namespace Store

/-- Puts into a place what a request has left there. -/
def place (store : Store) (name collection : String) : Option Collection → Store
  | none => store
  | some held => store.hold name collection held

section Places

variable (store : Store) (name collection : String)

theorem place_collection? :
    store.place name collection (store.collection? name collection) = store := by
  cases present : store.collection? name collection with
  | none => rfl
  | some held => exact hold_of_collection? store name collection held present

theorem place_faults (held? : Option Collection) :
    (store.place name collection held?).faults = store.faults := by
  cases held? with
  | none | some => rfl

theorem place_transactions (held? : Option Collection) :
    (store.place name collection held?).transactions = store.transactions := by
  cases held? with
  | none | some => rfl

theorem collection?_place_of_ne (held? : Option Collection) {otherName other : String}
    (differ : ¬(otherName = name ∧ other = collection)) :
    (store.place name collection held?).collection? otherName other =
      store.collection? otherName other := by
  cases held? with
  | none => rfl
  | some held => exact collection?_hold_of_ne store name collection held differ

theorem hold_hold (held later : Collection) :
    (store.hold name collection held).hold name collection later =
      store.hold name collection later := by
  have same := store.database_hold_self name collection held
  simp only [hold] at same ⊢
  rw [same]
  simp [SortedMap.insert_insert]

theorem hold_comm (held later : Collection) {otherName other : String}
    (differ : ¬(otherName = name ∧ other = collection)) :
    (store.hold name collection held).hold otherName other later =
      (store.hold otherName other later).hold name collection held := by
  -- The places are in one database, or in two.
  by_cases sameName : otherName = name
  · subst sameName
    have apart : collection ≠ other := fun same => differ ⟨rfl, same.symm⟩
    have first := store.database_hold_self otherName collection held
    have second := store.database_hold_self otherName other later
    simp only [hold] at first second ⊢
    rw [first, second]
    simp [SortedMap.insert_insert, SortedMap.insert_comm _ apart]
  · have first := store.database_hold_of_ne name collection held sameName
    have second := store.database_hold_of_ne otherName other later (Ne.symm sameName)
    simp only [hold] at first second ⊢
    rw [first, second]
    simp [SortedMap.insert_comm _ (Ne.symm sameName)]

theorem place_comm (held? later? : Option Collection) {otherName other : String}
    (differ : ¬(otherName = name ∧ other = collection)) :
    (store.place name collection held?).place otherName other later? =
      (store.place otherName other later?).place name collection held? := by
  cases held? with
  | none => rfl
  | some held =>
    cases later? with
    | none => rfl
    | some later => exact store.hold_comm name collection held later differ

end Places

/-- Without pending faults a request reads its transaction and its place, and it changes that
place alone. -/
theorem request_eq {store : Store} (calm : store.faults = []) {transaction : Nat}
    {active : ActiveTransaction} (running : store.transactions.get? transaction = some active)
    (collection : String) (asked : Request) :
    store.request transaction collection asked =
      let served := active.serve collection asked (store.collection? active.database collection)
      (served.1, store.place active.database collection served.2) := by
  have ends := request_ends store transaction collection asked
  have unmoved := store.place_collection? active.database collection
  have passed : store.Admitted transaction collection asked active →
      active.refusal? collection asked = none := by
    intro admitted
    simp only [ActiveTransaction.refusal?]
    rw [if_neg (not_not_intro admitted.covered), if_neg admitted.allowed]
  generalize store.request transaction collection asked = result at ends
  cases ends with
  | finished absent => cases absent.symm.trans running
  | uncovered other also outside =>
    cases running.symm.trans also
    have refused : active.refusal? collection asked = some (.collectionMissing collection) :=
      if_pos outside
    simp [ActiveTransaction.serve, refused, unmoved]
  | readOnly other also covered writes mode =>
    cases running.symm.trans also
    have refused : active.refusal? collection asked = some .readOnlyTransaction := by
      simp [ActiveTransaction.refusal?, covered, writes, mode]
    simp [ActiveTransaction.serve, refused, unmoved]
  | injected other admitted pending =>
    rw [calm] at pending
    cases pending
  | missing other admitted quiet absent =>
    cases running.symm.trans admitted.running
    simp [ActiveTransaction.serve, passed admitted, absent, place]
  | rejected other admitted quiet held present cause refusal =>
    cases running.symm.trans admitted.running
    rw [present] at unmoved
    simp [ActiveTransaction.serve, Collection.serve, passed admitted, present, refusal,
      unmoved]
  | answered other admitted quiet held present answer changed success =>
    cases running.symm.trans admitted.running
    simp [ActiveTransaction.serve, Collection.serve, passed admitted, present, success,
      place]

section Served

variable (store : Store) (database collection : String) (active joined : ActiveTransaction)
  (first second : Request)

theorem collection?_place_served :
    let left := (active.serve collection first (store.collection? database collection)).2
    (store.place database collection left).collection? database collection = left := by
  cases present : store.collection? database collection with
  | none => rwa [ActiveTransaction.serve_none]
  | some held =>
    obtain ⟨changed, served⟩ := active.serve_some collection first held
    rw [served]
    exact store.collection?_hold_self database collection changed

/-- Of two changes to one place the later stands. -/
theorem place_served :
    let left := (active.serve collection first (store.collection? database collection)).2
    (store.place database collection left).place database collection
        (joined.serve collection second left).2 =
      store.place database collection (joined.serve collection second left).2 := by
  cases present : store.collection? database collection with
  | none =>
    simp only [ActiveTransaction.serve_none]
    rfl
  | some held =>
    obtain ⟨changed, served⟩ := active.serve_some collection first held
    obtain ⟨last, servedLast⟩ := joined.serve_some collection second changed
    simp only [served, servedLast]
    exact store.hold_hold database collection changed last

end Served

section Exchanged

variable {store : Store} {transaction other : Nat} {active joined : ActiveTransaction}
  {collection name : String} {first second : Request}

/-- Two requests that do not meet, in the transactions through which they are made. -/
inductive Independent (active joined : ActiveTransaction) (collection name : String)
    (first second : Request) : Prop where
  | databases (differ : joined.database ≠ active.database)
  | collections (differ : name ≠ collection)
  | keys (key other : Key) (about : first.key? = some key) (later : second.key? = some other)
      (differ : key ≠ other)

theorem requests_exchange (calm : store.faults = [])
    (running : store.transactions.get? transaction = some active)
    (also : store.transactions.get? other = some joined)
    (independent : Independent active joined collection name first second) :
    ((store.request transaction collection first).2.request other name second).1 =
        (store.request other name second).1 ∧
      ((store.request transaction collection first).2.request other name second).2 =
        ((store.request other name second).2.request transaction collection first).2 := by
  rw [request_eq calm running, request_eq calm also]
  simp only
  rw [request_eq (by rw [place_faults, calm]) (by rw [place_transactions, also]),
    request_eq (by rw [place_faults, calm]) (by rw [place_transactions, running])]
  simp only
  -- The changes stay in their places, so only within one place the keys matter.
  by_cases here : joined.database = active.database ∧ name = collection
  · obtain ⟨sameDatabase, rfl⟩ := here
    cases independent with
    | databases differ => exact absurd sameDatabase differ
    | collections differ => exact absurd rfl differ
    | keys key distinct about later differ =>
      obtain ⟨replies, left⟩ := ActiveTransaction.serve_comm about later differ active joined name
        (store.collection? active.database name)
      rw [sameDatabase, collection?_place_served, collection?_place_served, place_served,
        place_served]
      exact ⟨replies, congrArg _ left⟩
  · have elsewhere : ¬(active.database = joined.database ∧ collection = name) :=
      fun same => here ⟨same.1.symm, same.2.symm⟩
    rw [collection?_place_of_ne _ _ _ _ here, collection?_place_of_ne _ _ _ _ elsewhere]
    exact ⟨rfl, store.place_comm _ _ _ _ here⟩

theorem Independent.symm (independent : Independent active joined collection name first second) :
    Independent joined active name collection second first := by
  cases independent with
  | databases differ => exact .databases (Ne.symm differ)
  | collections differ => exact .collections (Ne.symm differ)
  | keys key distinct about later differ => exact .keys distinct key later about (Ne.symm differ)

/-- Requests that do not meet can be carried out in either order: both get the same replies
and leave the same store, with the same key generators. -/
theorem independent_requests_commute (calm : store.faults = [])
    (running : store.transactions.get? transaction = some active)
    (also : store.transactions.get? other = some joined)
    (independent : Independent active joined collection name first second) :
    store.exchanges [.request transaction collection first, .request other name second] =
        (store.exchanges [.request other name second,
          .request transaction collection first]).reverse ∧
      store.run [.request transaction collection first, .request other name second] =
        store.run [.request other name second, .request transaction collection first] := by
  obtain ⟨secondReply, left⟩ := requests_exchange calm running also independent
  obtain ⟨firstReply, -⟩ := requests_exchange calm also running independent.symm
  constructor
  · simp only [exchanges, step, List.reverse_cons, List.reverse_nil, List.nil_append,
      List.cons_append, secondReply, firstReply]
  · simpa only [run, step] using left

end Exchanged

/-- Two transactions over one collection. -/
def sharing : List Command :=
  [.openDatabase "notes" none fun _ _ => .createMissing ["t"] .finish,
    .beginTransaction 0 ["t"] .readWrite,
    .beginTransaction 0 ["t"] .readWrite]

theorem greatest_key_commutes_with_third :
    let first : Command := .request 0 "t" (.add (.ofKey Key.greatest))
    let second : Command := .request 1 "t" (.put (.ofKey 3))
    (empty.run sharing).exchanges [first, second] =
        ((empty.run sharing).exchanges [second, first]).reverse ∧
      (empty.run sharing).run [first, second] = (empty.run sharing).run [second, first] :=
  independent_requests_commute rfl rfl rfl (.keys Key.greatest 3 rfl rfl (by decide))

end Store

end RecordSql
