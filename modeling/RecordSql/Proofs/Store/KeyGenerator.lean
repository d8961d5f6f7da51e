import RecordSql.Proofs.Store.Collections

/-!
What the key generator of a collection guarantees. Over any history the
generator stays ahead of every key that is held and of every key that it gave
out, until it stops at the greatest key. An addition therefore finds its key
free, and a generated key is new, except where the generator has stopped.
-/

namespace RecordSql

namespace Key

def greatest : Key := Int64.maxValue

/-- A generator has passed a key when it will not give it out, unless it has
stopped at the greatest key. -/
def PassedBy (key generator : Key) : Prop := key < generator ∨ generator = greatest

theorem le_greatest (key : Key) : key ≤ greatest := Int64.le_maxValue key

theorem toInt_next (key : Key) (below : key ≠ greatest) : key.next.toInt = key.toInt + 1 := by
  have bound : key.toInt ≠ 9223372036854775807 := fun same =>
    below (Int64.toInt_inj.mp (by rw [same]; decide))
  have upper := key.toInt_lt
  have lower := key.le_toInt
  have steps : key ≠ Int64.maxValue := below
  rw [Key.next, if_neg steps, Int64.toInt_add, Int.bmod_eq_of_le]
  · rfl
  · simp only [Int64.reduceToInt]
    omega
  · simp only [Int64.reduceToInt]
    omega

theorem next_greatest : greatest.next = greatest := by decide

theorem le_next (key : Key) : key ≤ key.next := by
  by_cases stopped : key = greatest
  · rw [stopped, next_greatest]
    exact Int64.le_refl _
  · rw [Int64.le_iff_toInt_le, toInt_next key stopped]
    omega

theorem passedBy_next (key : Key) : key.PassedBy key.next := by
  by_cases stopped : key = greatest
  · exact Or.inr (by rw [stopped, next_greatest])
  · apply Or.inl
    rw [Int64.lt_iff_toInt_lt, toInt_next key stopped]
    omega

theorem PassedBy.mono {key generator later : Key} (passed : key.PassedBy generator)
    (grows : generator ≤ later) : key.PassedBy later := by
  rcases passed with below | stopped
  · exact Or.inl (Int64.lt_of_lt_of_le below grows)
  · subst stopped
    exact Or.inr (Int64.le_antisymm (le_greatest later) grows)

/-- A generator that has passed its own key has stopped. -/
theorem passedBy_self_iff (key : Key) : key.PassedBy key ↔ key = greatest := by
  constructor
  · rintro (below | stopped)
    · exact absurd below Int64.lt_irrefl
    · exact stopped
  · exact Or.inr

theorem greatest_passedBy_iff (generator : Key) :
    greatest.PassedBy generator ↔ generator = greatest := by
  constructor
  · rintro (below | stopped)
    · exact absurd below (Int64.not_lt.mpr (le_greatest generator))
    · exact stopped
  · exact Or.inr

end Key

namespace Request

/-- The key that a collection generated to answer a request, if it did. -/
def generated? : (asked : Request) → Except StoreError asked.Answer → Option Key
  | .add record, .ok key => if (record.get? Record.keyField).isNone then some key else none
  | .put record, .ok key => if (record.get? Record.keyField).isNone then some key else none
  | _, _ => none

end Request

namespace Collection

/-- The generator is ahead of every key that is held. -/
def Ahead (held : Collection) : Prop :=
  ∀ key, held.records.contains key = true → key.PassedBy held.nextKey

theorem ahead_hold (held : Collection) (key : Key) (record : Record) (nextKey : Key)
    (ahead : held.Ahead) (grows : held.nextKey ≤ nextKey) (passed : key.PassedBy nextKey) :
    (held.hold key record nextKey).Ahead := by
  intro other present
  by_cases same : other = key
  · subst same
    exact passed
  · have before : held.records.contains other = true := by
      simpa [hold, SortedMap.contains_insert, same] using present
    exact (ahead other before).mono grows

theorem le_pass (held : Collection) (key : Key) : held.nextKey ≤ held.pass key := by
  simp only [pass]
  split
  · rename_i reached
    exact Int64.le_trans reached key.le_next
  · exact Int64.le_refl _

theorem passedBy_pass (held : Collection) (key : Key) : key.PassedBy (held.pass key) := by
  simp only [pass]
  split
  · exact key.passedBy_next
  · rename_i beyond
    exact Or.inl (Int64.not_le.mp beyond)

theorem add_ok {held changed : Collection} {name : String} {record : Record} {key : Key}
    (success : held.add name record = .ok (key, changed)) :
    (record.get? Record.keyField = none ∧ key = held.nextKey ∧
        changed = held.hold key (record.insert Record.keyField (.integer key)) key.next) ∨
      (record.get? Record.keyField = some (.integer key) ∧ held.records.contains key = false ∧
        changed = held.hold key record (held.pass key)) := by
  simp only [add] at success
  split at success
  · rename_i unnamed
    obtain ⟨rfl, rfl⟩ := Prod.mk.inj (Except.ok.inj success)
    exact Or.inl ⟨unnamed, rfl, rfl⟩
  · rename_i chosen named
    split at success
    · cases success
    · rename_i free
      obtain ⟨rfl, rfl⟩ := Prod.mk.inj (Except.ok.inj success)
      exact Or.inr ⟨named, by simpa using free, rfl⟩
  · cases success

theorem put_ok {held changed : Collection} {record : Record} {key : Key}
    (success : held.put record = .ok (key, changed)) :
    (record.get? Record.keyField = none ∧ key = held.nextKey ∧
        changed = held.hold key (record.insert Record.keyField (.integer key)) key.next) ∨
      (record.get? Record.keyField = some (.integer key) ∧
        changed = held.hold key record (held.pass key)) := by
  simp only [put] at success
  split at success
  · rename_i unnamed
    obtain ⟨rfl, rfl⟩ := Prod.mk.inj (Except.ok.inj success)
    exact Or.inl ⟨unnamed, rfl, rfl⟩
  · rename_i chosen named
    obtain ⟨rfl, rfl⟩ := Prod.mk.inj (Except.ok.inj success)
    exact Or.inr ⟨named, rfl⟩
  · cases success

/-- What a request keeps: the generator only grows, it stays ahead of what is
held, and it passes the key that it gives out. -/
structure Advances (held changed : Collection) (generated? : Option Key) : Prop where
  grows : held.nextKey ≤ changed.nextKey
  ahead : held.Ahead → changed.Ahead
  passed : ∀ key ∈ generated?, key = held.nextKey ∧ key.PassedBy changed.nextKey

theorem advances_hold_generated (held : Collection) (record : Record) :
    Advances held (held.hold held.nextKey record held.nextKey.next) (some held.nextKey) where
  grows := held.nextKey.le_next
  ahead := fun ahead => ahead_hold held _ record _ ahead held.nextKey.le_next
    held.nextKey.passedBy_next
  passed := by
    intro key given
    cases given
    exact ⟨rfl, held.nextKey.passedBy_next⟩

theorem advances_hold_chosen (held : Collection) (key : Key) (record : Record) :
    Advances held (held.hold key record (held.pass key)) none where
  grows := held.le_pass key
  ahead := fun ahead => ahead_hold held key record _ ahead (held.le_pass key)
    (held.passedBy_pass key)
  passed := by simp

theorem answer_advances {held changed : Collection} {name : String} {asked : Request}
    {answer : asked.Answer} (success : held.answer name asked = .ok (answer, changed)) :
    Advances held changed (asked.generated? (.ok answer)) := by
  cases asked with
  | add record =>
    rcases add_ok success with ⟨unnamed, sameKey, same⟩ | ⟨named, free, same⟩
    · subst same sameKey
      simpa [Request.generated?, unnamed] using advances_hold_generated held _
    · subst same
      simpa [Request.generated?, named] using advances_hold_chosen held _ record
  | put record =>
    rcases put_ok success with ⟨unnamed, sameKey, same⟩ | ⟨named, same⟩
    · subst same sameKey
      simpa [Request.generated?, unnamed] using advances_hold_generated held _
    · subst same
      simpa [Request.generated?, named] using advances_hold_chosen held _ record
  | getAll | get key =>
    obtain ⟨rfl, rfl⟩ := Prod.mk.inj (Except.ok.inj success)
    exact ⟨Int64.le_refl _, id, by simp [Request.generated?]⟩
  | delete key =>
    obtain ⟨rfl, rfl⟩ := Prod.mk.inj (Except.ok.inj success)
    refine ⟨Int64.le_refl _, fun ahead other present => ahead other ?_, by
      simp [Request.generated?]⟩
    by_cases same : other = key
    · subst same
      simp [delete, SortedMap.contains] at present
    · simpa [delete, SortedMap.contains, SortedMap.get?_erase_of_ne _ same] using present

/-- An addition that leaves its key to a generator that has stopped at a key which
is taken. -/
def Exhausted (held : Collection) (record : Record) : Prop :=
  record.get? Record.keyField = none ∧ held.records.contains Key.greatest = true

theorem Ahead.stopped {held : Collection} (ahead : held.Ahead)
    (taken : held.records.contains Key.greatest = true) : held.nextKey = Key.greatest :=
  (Key.greatest_passedBy_iff held.nextKey).mp (ahead Key.greatest taken)

/-- The key of an addition was free, except where the generator is exhausted. -/
theorem add_free_iff {held changed : Collection} {name : String} {record : Record} {key : Key}
    (ahead : held.Ahead) (success : held.add name record = .ok (key, changed)) :
    held.records.contains key = false ↔ ¬held.Exhausted record := by
  rcases add_ok success with ⟨unnamed, sameKey, same⟩ | ⟨named, free, same⟩
  · -- A generated key is taken only if the generator did not pass it, and then the
    -- generator has stopped.
    subst sameKey
    constructor
    · rintro free ⟨_, taken⟩
      rw [ahead.stopped taken, taken] at free
      cases free
    · intro fine
      by_cases taken : held.records.contains held.nextKey = true
      · have stopped := (Key.passedBy_self_iff held.nextKey).mp (ahead held.nextKey taken)
        exact absurd ⟨unnamed, stopped ▸ taken⟩ fine
      · simpa using taken
  · refine ⟨fun _ exhausted => ?_, fun _ => free⟩
    rw [exhausted.1] at named
    cases named

theorem add_records {held changed : Collection} {name : String} {record : Record} {key : Key}
    (success : held.add name record = .ok (key, changed)) :
    ∃ written, changed.records = held.records.insert key written := by
  rcases add_ok success with ⟨_, _, same⟩ | ⟨_, _, same⟩
  · exact ⟨_, by rw [same]; rfl⟩
  · exact ⟨_, by rw [same]; rfl⟩

end Collection

namespace Store

/-- The key that a command makes a collection generate, if it does. -/
def generated? (store : Store) (database collection : String) : Command → Option Key
  | .request transaction name asked =>
      match store.transactions.get? transaction with
      | some active =>
          if active.database = database ∧ name = collection then
            asked.generated? (store.request transaction name asked).1
          else none
      | none => none
  | _ => none

/-- The keys that a collection generates over a history, in order. -/
def generatedKeys (store : Store) (database collection : String) : List Command → List Key
  | [] => []
  | command :: rest =>
      (store.generated? database collection command).toList ++
        (store.step command).2.generatedKeys database collection rest

/-- The generator of a collection is ahead of what is held and of the keys that
it gave out. A collection that is not there yet gave out none. -/
structure GeneratorAhead (store : Store) (database collection : String) (given : List Key) :
    Prop where
  held : ∀ held, store.collection? database collection = some held → held.Ahead
  given : ∀ key ∈ given, ∃ held, store.collection? database collection = some held ∧
    key.PassedBy held.nextKey

theorem generatorAhead_empty (database collection : String) :
    empty.GeneratorAhead database collection [] where
  held := by
    intro held present
    cases present
  given := by simp

theorem empty_collection_ahead : Collection.empty.Ahead := by
  intro key present
  cases present

theorem generated?_error (asked : Request) (cause : StoreError) :
    asked.generated? (.error cause) = none := by
  cases asked <;> rfl

theorem generated?_ok {store : Store} {database collection : String} {command : Command}
    {key : Key} (generated : store.generated? database collection command = some key) :
    ∃ transaction asked answer held changed,
      command = .request transaction collection asked ∧
      (store.step (.request transaction collection asked)).1 = .ok answer ∧
      asked.generated? (.ok answer) = some key ∧
      store.collection? database collection = some held ∧
      held.answer collection asked = .ok (answer, changed) ∧
      (store.step command).2.collection? database collection = some changed := by
  cases command with
  | request transaction name asked =>
    simp only [generated?] at generated
    split at generated
    · rename_i active running
      split at generated
      · rename_i here
        obtain ⟨rfl, rfl⟩ := here
        have ends := request_ends store transaction name asked
        generalize result : store.request transaction name asked = replied at ends
        rw [result] at generated
        cases ends with
        | finished | uncovered | readOnly | injected | missing | rejected =>
          rw [generated?_error] at generated
          cases generated
        | answered other admitted calm held present answer changed success =>
          have sameActive : active = other :=
            Option.some.inj (running.symm.trans admitted.running)
          subst sameActive
          refine ⟨transaction, asked, answer, held, changed, rfl, ?_, generated, present,
            success, ?_⟩
          · simp only [step, result]
          · simp only [step, result, collection?_hold_self]
      · cases generated
    · cases generated
  | openDatabase | close | beginTransaction | commit | abort | inject | snapshot =>
    cases generated

theorem step_generatorAhead {store : Store} {database collection : String} {given : List Key}
    (ahead : store.GeneratorAhead database collection given) (command : Command) :
    (store.step command).2.GeneratorAhead database collection
      (given ++ (store.generated? database collection command).toList) where
  held := by
    have taken := step_collection store command database collection
    generalize (store.step command).2.collection? database collection = after at taken
    intro held present
    cases taken with
    | kept => exact ahead.held held present
    | created =>
      cases present
      exact empty_collection_ahead
    | answered transaction asked active admitted here calm before found answer changed success =>
      cases present
      exact (Collection.answer_advances success).ahead (ahead.held before found)
  given := by
    intro key member
    rcases List.mem_append.mp member with old | fresh
    · obtain ⟨held, present, passed⟩ := ahead.given key old
      have taken := step_collection store command database collection
      generalize (store.step command).2.collection? database collection = after at taken
      cases taken with
      | kept => exact ⟨held, present, passed⟩
      | created command absent =>
        rw [absent] at present
        cases present
      | answered transaction asked active admitted here calm before found answer changed success =>
        have same : held = before := Option.some.inj (present.symm.trans found)
        subst same
        exact ⟨changed, rfl, passed.mono (Collection.answer_advances success).grows⟩
    · have generated : store.generated? database collection command = some key := by
        simpa using fresh
      obtain ⟨transaction, asked, answer, held, changed, same, replied, gives, found, success,
        after⟩ := generated?_ok generated
      have advances := Collection.answer_advances success
      exact ⟨changed, after, (advances.passed key (by rw [gives]; rfl)).2⟩

theorem run_generatorAhead {store : Store} {database collection : String} {given : List Key}
    (ahead : store.GeneratorAhead database collection given) (commands : List Command) :
    (store.run commands).GeneratorAhead database collection
      (given ++ store.generatedKeys database collection commands) := by
  induction commands generalizing store given with
  | nil => simpa [run, generatedKeys] using ahead
  | cons command rest ih =>
    have later := ih (step_generatorAhead ahead command)
    simpa [run, generatedKeys, List.append_assoc] using later

theorem reachable_generatorAhead (commands : List Command) (database collection : String) :
    (empty.run commands).GeneratorAhead database collection
      (empty.generatedKeys database collection commands) := by
  simpa using run_generatorAhead (generatorAhead_empty database collection) commands

/-- What a successful addition does to the collection it was made to, after a
history: it takes a free key, keeps every other record and makes the collection
larger by one, unless the generator is exhausted. A generated key was given out
before exactly where the greatest key was. -/
structure Addition (commands : List Command) (transaction : Nat) (name : String)
    (record : Record) (key : Key) (next : Store) (active : ActiveTransaction)
    (held changed : Collection) : Prop where
  running : (empty.run commands).transactions.get? transaction = some active
  before : (empty.run commands).collection? active.database name = some held
  after : next.collection? active.database name = some changed
  kept : ∀ other, other ≠ key → changed.records.get? other = held.records.get? other
  free : held.records.contains key = false ↔ ¬held.Exhausted record
  larger : changed.records.size = held.records.size + 1 ↔ ¬held.Exhausted record
  reused : record.get? Record.keyField = none →
    (key ∈ empty.generatedKeys active.database name commands ↔
      Key.greatest ∈ empty.generatedKeys active.database name commands)

theorem add_replaces_nothing_unless_exhausted (commands : List Command) (transaction : Nat)
    (name : String) (record : Record) (key : Key) (next : Store)
    (added : (empty.run commands).request transaction name (.add record) = (.ok key, next)) :
    ∃ active held changed,
      Addition commands transaction name record key next active held changed := by
  obtain ⟨active, held, changed, admitted, present, success, after⟩ := request_ok added
  have ahead := reachable_generatorAhead commands active.database name
  have free := Collection.add_free_iff (ahead.held held present) success
  obtain ⟨written, inserted⟩ := Collection.add_records success
  refine ⟨active, held, changed, admitted.running, present, ?_, ?_, free, ?_, ?_⟩
  · rw [after, collection?_hold_self]
  · intro other differ
    rw [inserted, SortedMap.get?_insert_of_ne _ differ]
  · rw [← free, inserted, SortedMap.size_insert]
    by_cases taken : held.records.contains key = true
    · simp [taken]
    · simp [taken]
  · intro unnamed
    have sameKey : key = held.nextKey := by
      rcases Collection.add_ok success with ⟨_, same, _⟩ | ⟨named, _, _⟩
      · exact same
      · rw [unnamed] at named
        cases named
    -- The generator has passed each key that it gave out; passing its own one means
    -- that it has stopped.
    have passed : ∀ given ∈ empty.generatedKeys active.database name commands,
        given.PassedBy held.nextKey := by
      intro given member
      obtain ⟨found, foundPresent, behind⟩ := ahead.given given member
      have same : held = found := Option.some.inj (present.symm.trans foundPresent)
      exact same ▸ behind
    constructor
    · intro again
      have stopped := (Key.passedBy_self_iff held.nextKey).mp (sameKey ▸ passed key again)
      rwa [sameKey, stopped] at again
    · intro given
      have stopped := (Key.greatest_passedBy_iff held.nextKey).mp (passed _ given)
      rwa [sameKey, stopped]

/-- A transaction on one empty collection in which a record of this key is added. -/
def holding (key : Key) : List Command :=
  [.openDatabase "notes" none fun _ _ => .createMissing ["t"] .finish,
    .beginTransaction 0 ["t"] .readWrite,
    .request 0 "t" (.add (.ofKey key))]

theorem addition_after_chosen_key :
    ∃ next, (empty.run (holding 10)).request 0 "t" (.add .empty) = (.ok 11, next) ∧
      ∃ active held changed, Addition (holding 10) 0 "t" .empty 11 next active held changed :=
  ⟨_, rfl, add_replaces_nothing_unless_exhausted (holding 10) 0 "t" .empty 11 _ rfl⟩

/-- A generated key can be taken: the generator stops at the greatest key, and an
addition that leaves its key to it replaces the record there. -/
theorem addition_replaces_greatest :
    ∃ held changed next,
      (empty.run (holding Key.greatest)).collection? "notes" "t" = some held ∧
      (empty.run (holding Key.greatest)).request 0 "t" (.add .empty) =
        (.ok Key.greatest, next) ∧
      next.collection? "notes" "t" = some changed ∧
      held.records.contains Key.greatest = true ∧ changed.records.size = held.records.size :=
  ⟨_, _, _, rfl, rfl, rfl, rfl, rfl⟩

end Store

end RecordSql
