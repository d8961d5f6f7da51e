import RecordSql.Proofs.Transaction.Rounds

/-!
What the two schedules make of statements that are issued together. The serial
one executes them one at a time. The interleaved one lets an update write back
a record that others have changed since it was read; as long as none does, that
too is one of the orders in which the statements could have been executed.
-/

namespace RecordSql

namespace Transaction

section Run

variable (schedule : Schedule) (program : List Statement) (handle : Handle) (store : Store)

/-- Under which transaction of the store the statements of a run are carried
out, and the store that they meet. If none can be carried out none is begun. -/
def opened : Option (Nat × Store) :=
  match (awaited handle store).1.connection with
  | .error _ => none
  | .ok _ =>
      if (sorted program handle store).1.isEmpty then some (0, (awaited handle store).2.store)
      else
        match begun program handle store with
        | (.ok transaction, later) => some (transaction, later.2.store)
        | (.error _, _) => none

/-- A run left the databases and settled its statements as if they had been
executed one at a time in an order. -/
structure AsIf (mode : CollectionMode) (transaction : Nat) (base : Store) (done : Run)
    (order : List Issued) : Prop where
  databases : done.journal.store.databases =
    (base.executeAll mode transaction order).2.databases
  outcomes : (Event.settlements done.journal.events).Perm
    (base.executeAll mode transaction order).1

theorem settlements_committed (transaction : Nat) (later : Handle × Journal) :
    Event.settlements (committed schedule program handle store transaction later).2.events =
      Event.settlements (carried schedule program handle store transaction later).events :=
  (settlements_sent _ _).trans (Event.settlements_append _ _ |>.trans (List.append_nil _))

theorem committed_databases (transaction : Nat) (later : Handle × Journal) :
    (committed schedule program handle store transaction later).2.store.databases =
      (carried schedule program handle store transaction later).store.databases :=
  Store.commit_databases _ transaction

theorem settlements_ended (journal : Journal) (result : Except Failure Unit) :
    Event.settlements (ended handle journal result).journal.events =
      Event.settlements journal.events := by
  rw [ended_events, Event.settlements_append]
  cases result <;> exact List.append_nil _

theorem settlements_moved (events : List Event) (issued : List Pending) :
    Event.settlements (events ++ issued.map fun _ => .moved .statementIssued) =
      Event.settlements events := by
  rw [Event.settlements_append]
  refine (congrArg _ (Event.settlements_inner ?_)).trans (List.append_nil _)
  intro event member
  obtain ⟨each, -, rfl⟩ := List.mem_map.mp member
  rfl

theorem settlements_prepared :
    Event.settlements (prepared program handle store).events =
      Event.settlements (sorted program handle store).2 := by
  simp only [prepared, setUp, Journal.note, Journal.queue, Journal.move,
    Event.settlements_append, Event.settlements_inner (awaited_inner handle store),
    Event.settlements_queued]
  rfl

theorem settlements_begun :
    Event.settlements (begun program handle store).2.2.events =
      Event.settlements (sorted program handle store).2 := by
  obtain ⟨exchanges, events⟩ := begun_events program handle store
  rw [events, Event.settlements_append,
    Event.settlements_inner (Event.inner_exchanges exchanges), List.append_nil]
  exact settlements_prepared program handle store

variable {program} {handle} {store}

theorem run_of_opened {transaction : Nat} {base : Store}
    (meets : opened program handle store = some (transaction, base)) :
    ∃ start : Journal, start.store = base ∧
      Event.settlements start.events = Event.settlements (sorted program handle store).2 ∧
      (run schedule program handle store).journal.store.databases =
        (runTasks schedule handle.options.mode transaction
          ((sorted program handle store).1.map Pending.task) start).store.databases ∧
      Event.settlements (run schedule program handle store).journal.events =
        Event.settlements (runTasks schedule handle.options.mode transaction
          ((sorted program handle store).1.map Pending.task) start).events := by
  have options := begun_options program handle store
  have settlements := settlements_begun program handle store
  generalize ended : run schedule program handle store = done
  have ends := run_ends schedule program handle store
  rw [ended] at ends
  cases ends with
  | unready cause state =>
    simp only [opened, state] at meets
    cases meets
  | idle connection ready nothing =>
    simp only [opened, ready, nothing, List.isEmpty_nil, ↓reduceIte] at meets
    cases meets
    refine ⟨prepared program handle store, rfl, settlements_prepared program handle store,
      ?_, ?_⟩
    · rw [nothing, List.map_nil, runTasks, ended_store]
      rfl
    · rw [nothing, List.map_nil, runTasks, settlements_ended]
      exact (Event.settlements_append _ _).trans (List.append_nil _)
  | abandoned connection ready something cause later failed =>
    have filled : (sorted program handle store).1.isEmpty = false := by simpa using something
    simp only [opened, ready, filled, failed, Bool.false_eq_true, ↓reduceIte] at meets
    cases meets
  | finished connection ready something number later began =>
    have filled : (sorted program handle store).1.isEmpty = false := by simpa using something
    simp only [opened, ready, filled, began, Bool.false_eq_true, ↓reduceIte] at meets
    cases meets
    rw [began] at options settlements
    have mode : later.1.options = handle.options := options
    refine ⟨later.2.note ((sorted program handle store).1.map fun _ => .moved .statementIssued),
      rfl, (settlements_moved _ _).trans settlements, ?_, ?_⟩
    · rw [ended_store, committed_databases, carried, mode]
    · rw [settlements_ended, settlements_committed, carried, mode]

theorem opened_calm {transaction : Nat} {base : Store} (calm : store.faults = [])
    (meets : opened program handle store = some (transaction, base)) : base.faults = [] := by
  have settled := awaited_calm handle store calm
  have beginning := begun_calm program handle store calm
  simp only [opened] at meets
  split at meets
  · cases meets
  · split at meets
    · cases meets
      exact settled
    · generalize begun program handle store = reply at meets beginning
      obtain ⟨cause | number, later⟩ := reply
      · cases meets
      · cases meets
        exact beginning

section Alone

variable (alone : ∀ issued ∈ issuedAtSetup program, issued.statement.Alone)
    {transaction : Nat} {base : Store}
    (meets : opened program handle store = some (transaction, base))

include alone meets

theorem serial_asIf :
    AsIf handle.options.mode transaction base (run .serial program handle store)
      (issuedAtSetup program) := by
  obtain ⟨start, same, before, databases, settlements⟩ :=
    run_of_opened .serial meets
  subst same
  rw [sorted, awaited_options] at before databases settlements
  obtain ⟨store, told⟩ := runTasks_serial handle.options.mode transaction
    (fun _ member => alone _ (mem_of_triage alone member))
    (fun _ member => triage_planned member) start
  obtain ⟨final, outcomes⟩ := executeAll_triage handle.options.mode transaction alone
    start.store
  constructor
  · rw [databases, store, final]
  · rw [settlements, told, before]
    exact outcomes.symm

theorem interleaved_halves :
    (run .interleaved program handle store).journal.store.databases =
        ((base.firstHalves transaction (sorted program handle store).1).2.secondHalves
          transaction
          (base.firstHalves transaction (sorted program handle store).1).1).2.databases ∧
      (Event.settlements (run .interleaved program handle store).journal.events).Perm
        (Event.settlements (sorted program handle store).2 ++
          ((base.firstHalves transaction (sorted program handle store).1).2.secondHalves
            transaction
            (base.firstHalves transaction (sorted program handle store).1).1).1) := by
  obtain ⟨start, same, before, databases, settlements⟩ :=
    run_of_opened .interleaved meets
  subst same
  obtain ⟨between, read, silent, first⟩ := runTasks_firstHalves handle.options.mode
    transaction (sorted program handle store).1 [] start
  have lonely : ∀ half ∈ (start.store.firstHalves transaction
      (sorted program handle store).1).1, half.1.issued.statement.Alone := by
    intro half member
    have waits : half.1 ∈ (sorted program handle store).1 := by
      rw [← start.store.firstHalves_pending transaction (sorted program handle store).1]
      exact List.mem_map_of_mem member
    exact alone _ (mem_of_triage alone waits)
  obtain ⟨final, told⟩ := runTasks_secondHalves handle.options.mode transaction [] lonely
    (by rintro _ ⟨⟩) between
  rw [List.append_nil, List.nil_append] at first
  rw [List.map_nil, List.append_nil] at final told
  rw [first] at databases settlements
  rw [read] at final told
  constructor
  · rw [databases, final]
  · rw [settlements]
    refine told.trans (.of_eq ?_)
    rw [silent, before, List.nil_append]

/-- Where each update still finds what it has read, the statements could have
been executed in this order: those that are not planned, those that settle in
their first half, and the updates that write. -/
theorem interleaved_asIf (calm : store.faults = [])
    (current : (base.firstHalves transaction (sorted program handle store).1).2.AllCurrent
      transaction (base.firstHalves transaction (sorted program handle store).1).1) :
    ∃ order, order.Perm (issuedAtSetup program) ∧
      AsIf handle.options.mode transaction base (run .interleaved program handle store)
        order := by
  obtain ⟨databases, outcomes⟩ := interleaved_halves alone meets
  have quiet := opened_calm calm meets
  have sort : sorted program handle store =
      triage handle.options.mode (issuedAtSetup program) := by rw [sorted, awaited_options]
  rw [sort] at databases outcomes current
  have rejected := executeAll_rejected handle.options.mode transaction alone base
  have everything := triage_perm handle.options.mode alone
  have planned : ∀ pending ∈ (triage handle.options.mode (issuedAtSetup program)).1,
      pending.issued.statement.planned handle.options.mode = .ok pending.plan :=
    fun pending => triage_planned
  generalize (triage handle.options.mode (issuedAtSetup program)).1 = waiting at *
  have names := base.firstHalves_pending transaction waiting
  have told := Store.executeAll_told transaction planned quiet
  have still := Store.firstHalves_faults transaction quiet waiting
  have plannedHalves : ∀ half ∈ (base.firstHalves transaction waiting).1,
      half.1.issued.statement.planned handle.options.mode = .ok half.1.plan := by
    intro half member
    apply planned half.1
    rw [← names]
    exact List.mem_map_of_mem member
  obtain ⟨written, wrote, same⟩ := Store.executeAll_writers transaction plannedHalves still current
  have parts := Halfway.told_writers_perm (base.firstHalves transaction waiting).1
  have issued : (base.firstHalves transaction waiting).1.map (fun half => half.1.issued) =
      waiting.map Pending.issued := by
    have mapped := congrArg (List.map Pending.issued) names
    rwa [List.map_map] at mapped
  rw [issued] at parts
  refine ⟨_, (parts.append_left _).trans everything, ?_⟩
  constructor
  · rw [databases, Store.executeAll_append, Store.executeAll_append, rejected, told, wrote]
  · rw [Store.executeAll_append, Store.executeAll_append, rejected, told, wrote]
    exact outcomes.trans (same.symm.append_left _)

end Alone

theorem alone_of_setup (alone : ∀ statement ∈ program, statement.Alone) :
    ∀ issued ∈ issuedAtSetup program, issued.statement.Alone := by
  intro issued member
  obtain ⟨offset, -, found⟩ := Issued.mem_number member
  exact alone _ (List.mem_of_getElem? found)

/-- Statements issued together are executed one at a time in the order of issue
by the serial schedule. The interleaved one carries out their first halves
before their second ones, which is one of the orders of executing them as long
as every update still finds what it has read. -/
theorem schedules_execute (alone : ∀ statement ∈ program, statement.Alone)
    (calm : store.faults = []) {transaction : Nat} {base : Store}
    (meets : opened program handle store = some (transaction, base)) :
    AsIf handle.options.mode transaction base (run .serial program handle store)
        (issuedAtSetup program) ∧
      ((run .interleaved program handle store).journal.store.databases =
          ((base.firstHalves transaction (sorted program handle store).1).2.secondHalves
            transaction
            (base.firstHalves transaction (sorted program handle store).1).1).2.databases ∧
        (Event.settlements (run .interleaved program handle store).journal.events).Perm
          (Event.settlements (sorted program handle store).2 ++
            ((base.firstHalves transaction (sorted program handle store).1).2.secondHalves
              transaction
              (base.firstHalves transaction (sorted program handle store).1).1).1)) ∧
      ((base.firstHalves transaction (sorted program handle store).1).2.AllCurrent transaction
          (base.firstHalves transaction (sorted program handle store).1).1 →
        ∃ order, order.Perm (issuedAtSetup program) ∧
          AsIf handle.options.mode transaction base (run .interleaved program handle store)
            order) := by
  have lonely := alone_of_setup alone
  exact ⟨serial_asIf lonely meets, interleaved_halves lonely meets,
    interleaved_asIf lonely meets calm⟩

end Run

section Notes

theorem perm_pair {first second : Issued} {order : List Issued}
    (same : order.Perm [first, second]) : order ∈ [[first, second], [second, first]] := by
  cases order with
  | nil => cases same.length_eq
  | cons head rest =>
    rcases List.mem_cons.mp (same.mem_iff.mp (List.mem_cons_self ..)) with rfl | other
    · rw [List.perm_singleton.mp ((List.perm_cons head).mp same)]
      exact List.mem_cons_self ..
    · rw [List.mem_singleton.mp other] at same ⊢
      have swapped := same.trans (List.Perm.swap second first [])
      rw [List.perm_singleton.mp ((List.perm_cons second).mp swapped)]
      exact List.mem_cons_of_mem _ (List.mem_singleton_self _)

/-- A database with one record whose fields `a` and `b` are 1 and 2. -/
def noted : Run :=
  run .serial [⟨"INSERT INTO t (a,b) VALUES (?,?)", [.integer 1, .integer 2], none, none⟩]
    (.new (.named "notes")) .empty

def settingIn (collection field : String) (number : Int64) : Statement :=
  ⟨"UPDATE " ++ collection ++ " SET " ++ field ++ "=? WHERE id = ?",
    [.integer number, .integer 1], none, none⟩

theorem settingIn_alone (collection field : String) (number : Int64) :
    (settingIn collection field number).Alone :=
  ⟨rfl, rfl⟩

def setting (field : String) (number : Int64) : Statement := settingIn "t" field number

def fieldA (databases : SortedMap String Database) : Option Int64 := do
  let database ← databases.get? "notes"
  let collection ← database.collections.get? "t"
  let record ← collection.records.get? 1
  (← record.get? "a").integer?

/-- Two updates take turns, each reading before the other has written. They meet in no
collection, so both schedules execute them. -/
theorem separate_updates_executed :
    let program := [setting "a" 10, settingIn "u" "b" 20]
    ∃ transaction base,
      opened program noted.handle noted.journal.store = some (transaction, base) ∧
      AsIf noted.handle.options.mode transaction base
        (run .serial program noted.handle noted.journal.store) (issuedAtSetup program) ∧
      ∃ order, order.Perm (issuedAtSetup program) ∧
        AsIf noted.handle.options.mode transaction base
          (run .interleaved program noted.handle noted.journal.store) order := by
  intro program
  have begins : (opened program noted.handle noted.journal.store).isSome = true := by
    decide +kernel
  have calm : noted.journal.store.faults = [] := by decide +kernel
  have apart : ((sorted program noted.handle noted.journal.store).1.map fun each =>
      each.plan.collection) = ["t", "u"] := by
    decide +kernel
  obtain ⟨⟨transaction, base⟩, meets⟩ := Option.isSome_iff_exists.mp begins
  have alone : ∀ statement ∈ program, statement.Alone := by
    intro statement member
    rcases List.mem_cons.mp member with rfl | other
    · exact settingIn_alone "t" "a" 10
    · rw [List.mem_singleton.mp other]
      exact settingIn_alone "u" "b" 20
  obtain ⟨serial, -, interleaved⟩ := schedules_execute alone calm meets
  have current := Store.allCurrent_of_apart transaction (opened_calm calm meets)
    (apart ▸ (by decide : ["t", "u"].Nodup))
  exact ⟨transaction, base, meets, serial, interleaved current⟩

/-- Two updates of different fields, interleaved: the second one writes back the
first field as it was, which it would not after the first one in any order. -/
theorem interleaved_update_lost :
    noted.journal.store.faults = [] ∧
    (opened [setting "a" 10, setting "b" 20] noted.handle noted.journal.store).isSome = true ∧
    ¬∃ transaction base order,
      opened [setting "a" 10, setting "b" 20] noted.handle noted.journal.store =
          some (transaction, base) ∧
        order.Perm (issuedAtSetup [setting "a" 10, setting "b" 20]) ∧
        AsIf .perStatement transaction base
          (run .interleaved [setting "a" 10, setting "b" 20] noted.handle noted.journal.store)
          order := by
  refine ⟨?_, ?_, ?_⟩
  · decide +kernel
  · decide +kernel
  · rintro ⟨transaction, base, order, meets, same, asIf⟩
    -- In either order the first field ends at 10; interleaved it is written back as 1.
    have before : ∀ order ∈ [issuedAtSetup [setting "a" 10, setting "b" 20],
        (issuedAtSetup [setting "a" 10, setting "b" 20]).reverse],
        ((opened [setting "a" 10, setting "b" 20] noted.handle noted.journal.store).bind
          fun met => fieldA (met.2.executeAll .perStatement met.1 order).2.databases) =
            some 10 := by
      decide +kernel
    have after : fieldA (run .interleaved [setting "a" 10, setting "b" 20] noted.handle
        noted.journal.store).journal.store.databases = some 1 := by
      decide +kernel
    have kept := before order (perm_pair same)
    rw [meets, Option.bind_some, ← asIf.databases, after] at kept
    cases kept

end Notes

end Transaction

end RecordSql
