import RecordSql.Proofs.Transaction.Failures

/-!
What the answer of a run depends on. It is settled when the transaction of the store
begins: whether its commit will succeed is known by then, and no statement that is carried
out in between has a say in it. A run whose transaction does not begin fails whatever waits
for it and leaves every record as it was; one whose commit fails has done everything else.
-/

namespace RecordSql

namespace Store

variable {store later : Store}

/-- No record of any database was written; at most collections were created. -/
def Unwritten (store later : Store) : Prop :=
  ∀ name collection, later.collection? name collection = store.collection? name collection ∨
    store.collection? name collection = none ∧ later.collection? name collection = some .empty

theorem Unwritten.refl (store : Store) : store.Unwritten store := fun _ _ => .inl rfl

theorem Unwritten.step (unwritten : store.Unwritten later) {command : Command}
    (asksNothing : ∀ transaction collection asked,
      command ≠ .request transaction collection asked) :
    store.Unwritten (later.step command).2 := by
  intro name collection
  have taken := later.step_collection command name collection
  have before := unwritten name collection
  generalize (later.step command).2.collection? name collection = after at taken
  cases taken with
  | kept => exact before
  | created _ absent =>
    rw [absent] at before
    rcases before with same | ⟨-, ⟨⟩⟩
    exact .inr ⟨same.symm, rfl⟩
  | answered transaction asked => exact absurd rfl (asksNothing transaction collection asked)

theorem request_commit_mem (store : Store) (transaction : Nat) (collection : String)
    (asked : Request) :
    .commit ∈ (store.request transaction collection asked).2.faults ↔ .commit ∈ store.faults := by
  have ends := request_ends store transaction collection asked
  generalize store.request transaction collection asked = result at ends
  cases ends with
  | finished | uncovered | readOnly | missing | rejected | answered => exact Iff.rfl
  | injected => exact List.mem_erase_of_ne (by rintro ⟨⟩)

/-- A commit answers by whether its transaction runs and whether it is made to fail. -/
theorem commit_answer (store : Store) (transaction : Nat) :
    (store.commit transaction).1 =
      if store.transactions.get? transaction = none then .error .alreadyFinished
      else if .commit ∈ store.faults then .error (.injected .commit) else .ok () := by
  have ends := store.commit_ends transaction
  generalize store.commit transaction = result at ends
  cases ends with
  | finished absent => rw [if_pos absent]
  | injected active running pending => rw [if_neg (by simp [running]), if_pos pending]
  | committed active running calm => rw [if_neg (by simp [running]), if_neg calm]

theorem commit_answer_congr {transaction : Nat}
    (running : later.transactions = store.transactions)
    (fails : .commit ∈ later.faults ↔ .commit ∈ store.faults) :
    (later.commit transaction).1 = (store.commit transaction).1 := by
  simp only [commit_answer, running, fails]

end Store

namespace Event

def setup? : Event → Option UInt64
  | .setup number => some number
  | _ => none

/-- The numbers of the transactions whose setup has run. -/
def setups (events : List Event) : List UInt64 := events.filterMap setup?

theorem setups_append (left right : List Event) :
    setups (left ++ right) = setups left ++ setups right := List.filterMap_append

theorem setups_of_none {events : List Event} (none : ∀ event ∈ events, event.setup? = none) :
    setups events = [] := List.filterMap_eq_nil_iff.mpr none

theorem setup?_of_isInner {event : Event} (inner : event.isInner = true) :
    event.setup? = none := by
  cases event with
  | setup number => cases inner
  | _ => rfl

theorem setup?_of_settled {event : Event} (told : (settlement? event).isSome = true) :
    event.setup? = none := by
  cases event with
  | setup number => cases told
  | _ => rfl

end Event

namespace Settlement

theorem outcomesAt_settled {settlements : List Settlement}
    (distinct : (Issued.places (issued settlements)).Nodup) {each : Issued} {outcome : Outcome}
    (settled : (each, outcome) ∈ settlements) :
    outcomesAt each.place settlements = [outcome] := by
  induction settlements with
  | nil => cases settled
  | cons first rest ih =>
    obtain ⟨fresh, others⟩ := List.nodup_cons.mp distinct
    rcases List.mem_cons.mp settled with rfl | later
    · rw [outcomesAt, if_pos rfl, outcomesAt_of_not_mem fresh]
    · have differ : first.1.place ≠ each.place := by
        intro same
        exact fresh (same ▸ List.mem_map_of_mem (List.mem_map_of_mem later))
      rw [outcomesAt, if_neg differ, ih others later]

end Settlement

namespace SettleAtOnce

variable {cause : Failure} {waiting : List Issued} {events : List Event}

theorem waiting_settle (drained : SettleAtOnce cause waiting events) {issued : Issued}
    (waits : issued ∈ waiting) : (issued, .error cause) ∈ Event.settlements events := by
  induction drained with
  | none cause => cases waits
  | @one cause first rest inner later followers others ihFollowers ihRest =>
    -- The followers of the first one settle before the rest does.
    change _ ∈ (first, .error cause) :: Event.settlements (inner ++ later)
    rw [Event.settlements_append]
    rcases List.mem_cons.mp waits with rfl | further
    · exact List.mem_cons_self ..
    · exact List.mem_cons_of_mem _ (List.mem_append_right _ (ihRest further))

/-- What settles did wait, or it was issued too late. -/
theorem settled_or_closed (drained : SettleAtOnce cause waiting events) {settlement : Settlement}
    (settled : settlement ∈ Event.settlements events) :
    settlement.1 ∈ waiting ∧ settlement.2 = .error cause ∨
      settlement.2 = .error .transactionClosed := by
  induction drained with
  | none cause => cases settled
  | @one cause first rest inner later followers others ihFollowers ihRest =>
    have cases : settlement ∈ (first, .error cause) :: Event.settlements (inner ++ later) :=
      settled
    rw [Event.settlements_append] at cases
    rcases List.mem_cons.mp cases with rfl | further
    · exact .inl ⟨List.mem_cons_self .., rfl⟩
    · rcases List.mem_append.mp further with below | after
      · exact .inr ((ihFollowers below).elim (·.2) id)
      · exact (ihRest after).imp_left fun ⟨waits, told⟩ => ⟨List.mem_cons_of_mem _ waits, told⟩

end SettleAtOnce

namespace Transaction

variable (schedule : Schedule) (program : List Statement) (handle : Handle) (store : Store)

/-- What a run will answer, as it stands when its transaction of the store has begun. -/
def verdict : Except Failure Unit :=
  match (awaited handle store).1.connection with
  | .error cause => .error cause
  | .ok _ =>
      if (sorted program handle store).1 = [] then .ok ()
      else
        match begun program handle store with
        | (.error cause, _) => .error cause
        | (.ok transaction, _, journal) =>
            (journal.store.commit transaction).1.mapError .transactionFailed

/-- The handle is ready, and there is something to carry out. -/
structure CarriesOut : Prop where
  ready : ∃ connection, (awaited handle store).1.connection = .ok connection
  something : (sorted program handle store).1 ≠ []

instance : Decidable (CarriesOut program handle store) :=
  decidable_of_iff ((awaited handle store).1.connection.isOk = true ∧
      (sorted program handle store).1.isEmpty = false) <| by
    constructor
    · rintro ⟨ready, something⟩
      refine ⟨?_, by simpa using something⟩
      cases known : (awaited handle store).1.connection with
      | error cause =>
        rw [known] at ready
        cases ready
      | ok connection => exact ⟨connection, rfl⟩
    · rintro ⟨⟨connection, ready⟩, something⟩
      exact ⟨by rw [ready]; rfl, by simpa using something⟩

/-- Whatever the statements ask for, the commit answers as it would have at once. -/
theorem committed_answer (transaction : Nat) (later : Handle × Journal) :
    (committed schedule program handle store transaction later).1 =
      (later.2.store.commit transaction).1 := by
  -- All that a commit looks at: the running transactions and the faults that are its own.
  have kept : (carried schedule program handle store transaction later).store.transactions =
        later.2.store.transactions ∧
      (.commit ∈ (carried schedule program handle store transaction later).store.faults ↔
        .commit ∈ later.2.store.faults) := by
    refine runTasks_keeps (fun _ journal =>
      journal.store.transactions = later.2.store.transactions ∧
        (.commit ∈ journal.store.faults ↔ .commit ∈ later.2.store.faults)) ?_ ?_ _ _ ?_
    · rintro issued call rest journal ⟨running, fails⟩
      exact ⟨(Store.request_transactions ..).trans running,
        (Store.request_commit_mem ..).trans fails⟩
    · exact fun _ _ _ _ held => held
    · exact ⟨rfl, Iff.rfl⟩
  exact Store.commit_answer_congr kept.1 kept.2

theorem run_verdict : (run schedule program handle store).result =
    verdict program handle store := by
  have ends := run_ends schedule program handle store
  generalize run schedule program handle store = done at ends ⊢
  cases ends with
  | unready cause state => simp only [ended_result, verdict, state]
  | idle connection ready nothing => simp only [ended_result, verdict, ready, nothing, ↓reduceIte]
  | abandoned connection ready something cause later failed =>
    simp only [ended_result, verdict, ready, something, ↓reduceIte, failed]
  | finished connection ready something transaction later began =>
    simp only [ended_result, verdict, ready, something, ↓reduceIte, began, committed_answer]

theorem run_isOk_iff : (run schedule program handle store).result = .ok () ↔
    (∃ connection, (awaited handle store).1.connection = .ok connection) ∧
      ((sorted program handle store).1 = [] ∨ ∃ transaction later,
        begun program handle store = (.ok transaction, later) ∧
        (committed schedule program handle store transaction later).1 = .ok ()) := by
  have ends := run_ends schedule program handle store
  generalize run schedule program handle store = done at ends ⊢
  cases ends with
  | unready cause state =>
    rw [ended_result]
    refine iff_of_false (by rintro ⟨⟩) ?_
    rintro ⟨⟨connection, ready⟩, -⟩
    cases state.symm.trans ready
  | idle connection ready nothing =>
    rw [ended_result]
    exact iff_of_true rfl ⟨⟨connection, ready⟩, .inl nothing⟩
  | abandoned connection ready something cause later failed =>
    rw [ended_result]
    refine iff_of_false (by rintro ⟨⟩) ?_
    rintro ⟨-, nothing | ⟨transaction, other, began, -⟩⟩
    · exact something nothing
    · cases failed.symm.trans began
  | finished connection ready something transaction later began =>
    rw [ended_result]
    constructor
    · intro success
      refine ⟨⟨connection, ready⟩, .inr ⟨transaction, later, began, ?_⟩⟩
      cases reply : (committed schedule program handle store transaction later).1 with
      | ok value => rfl
      | error cause =>
        rw [reply] at success
        cases success
    · rintro ⟨-, nothing | ⟨number, other, also, success⟩⟩
      · exact absurd nothing something
      · cases began.symm.trans also
        rw [success]
        rfl

section Setups

theorem triage_setup? (mode : CollectionMode) (waiting : List Issued) :
    ∀ event ∈ (triage mode waiting).2, event.setup? = none := by
  fun_induction triage mode waiting
  case case1 => rintro event ⟨⟩
  case case2 first rest plan valid pending later same ih => rwa [same] at ih
  case case3 first rest cause invalid followers pending later same ih =>
    rw [same] at ih
    intro event member
    rcases List.mem_cons.mp member with rfl | further
    · rfl
    · rcases List.mem_append.mp further with queued | after
      · obtain ⟨follower, -, rfl⟩ := List.mem_map.mp queued
        rfl
      · exact ih event after

theorem settling_setup? (issued : Issued) (outcome : Outcome) :
    ∀ event ∈ settling issued outcome, event.setup? = none := by
  intro event member
  rcases List.mem_append.mp member with told | moved
  · rcases List.mem_cons.mp told with rfl | queued
    · rfl
    · obtain ⟨follower, -, rfl⟩ := List.mem_map.mp queued
      rfl
  · rcases List.mem_cons.mp moved with rfl | issues
    · rfl
    · obtain ⟨follower, -, rfl⟩ := List.mem_map.mp issues
      rfl

theorem prepared_setups :
    Event.setups (prepared program handle store).events = [handle.nextTransaction] := by
  have queued : Event.setups ((issuedAtSetup program).map fun each => .queued each.place) = [] :=
    Event.setups_of_none fun event member => by
      obtain ⟨each, -, rfl⟩ := List.mem_map.mp member
      rfl
  have waits : Event.setups (awaited handle store).2.events = [] :=
    Event.setups_of_none fun event member =>
      Event.setup?_of_isInner (awaited_inner handle store event member)
  have told : Event.setups (sorted program handle store).2 = [] :=
    Event.setups_of_none (triage_setup? _ _)
  simp only [prepared, setUp, Journal.note, Journal.queue, Journal.move, Event.setups_append,
    waits, queued, told]
  rfl

theorem begun_setups :
    Event.setups (begun program handle store).2.2.events = [handle.nextTransaction] := by
  obtain ⟨exchanges, events⟩ := begun_events program handle store
  rw [events, Event.setups_append, prepared_setups, Event.setups_of_none fun event member =>
    Event.setup?_of_isInner (Event.inner_exchanges exchanges event member)]
  rfl

theorem runTasks_setups {mode : CollectionMode} {transaction : Nat} (tasks : List Task)
    (journal : Journal) :
    Event.setups (runTasks schedule mode transaction tasks journal).events =
      Event.setups journal.events := by
  refine runTasks_keeps (fun _ later => Event.setups later.events = Event.setups journal.events)
    ?_ ?_ tasks journal rfl
  · intro issued call rest later same
    exact (Event.setups_append ..).trans ((List.append_nil _).trans same)
  · intro issued outcome rest later same
    rw [settle_eq_note, Journal.note, Event.setups_append,
      Event.setups_of_none (settling_setup? issued outcome), List.append_nil, same]

theorem ended_setups (last : Handle) (journal : Journal) (result : Except Failure Unit) :
    Event.setups (ended last journal result).journal.events = Event.setups journal.events := by
  rw [ended_events, Event.setups_append]
  cases result <;> exact List.append_nil _

/-- The setup runs once on a handle that is ready, and otherwise not at all. -/
theorem run_setups : Event.setups (run schedule program handle store).journal.events =
    match (awaited handle store).1.connection with
    | .ok _ => [handle.nextTransaction]
    | .error _ => [] := by
  have prepares := prepared_setups program handle store
  have begins := begun_setups program handle store
  have ends := run_ends schedule program handle store
  generalize run schedule program handle store = done at ends ⊢
  cases ends with
  | unready cause state =>
    rw [ended_setups, state]
    exact Event.setups_of_none fun event member =>
      Event.setup?_of_isInner (awaited_inner handle store event member)
  | idle connection ready nothing =>
    rw [ended_setups, ready, Journal.note, Event.setups_append, prepares]
    rfl
  | abandoned connection ready something cause later failed =>
    rw [failed] at begins
    rw [ended_setups, ready, Journal.note, Event.setups_append, begins]
    have settled : Event.setups (.closed :: (sorted program handle store).1.flatMap fun each =>
        Transaction.abandoned cause each.issued) = [] := by
      refine Event.setups_of_none fun event member => ?_
      rcases List.mem_cons.mp member with rfl | drained
      · rfl
      · exact Event.setup?_of_settled ((abandoned_settle cause _).isSettled event drained)
    rw [settled]
    rfl
  | finished connection ready something transaction later began =>
    rw [began] at begins
    have issued : Event.setups ((sorted program handle store).1.map
        fun _ => Event.moved .statementIssued) = [] :=
      Event.setups_of_none fun event member => by
        obtain ⟨each, -, rfl⟩ := List.mem_map.mp member
        rfl
    have carries : Event.setups (carried schedule program handle store transaction later).events =
        [handle.nextTransaction] := by
      rw [carried, runTasks_setups, Journal.note, Event.setups_append, begins, issued]
      rfl
    rw [ended_setups, ready, committed, Journal.send, Journal.note, Event.setups_append,
      Event.setups_append, carries]
    rfl

end Setups

theorem begun_unwritten : store.Unwritten (begun program handle store).2.2.store := by
  -- A handle that awaits its database and begins a transaction makes no request.
  have asksNothing : ∀ {name : String} {command : Command}, Handle.MaySend name command →
      ∀ transaction collection asked, command ≠ .request transaction collection asked := by
    rintro name command allowed transaction collection asked rfl
    cases allowed
  have waits : store.Unwritten (awaited handle store).2.store :=
    (awaited_continues handle store).sends.keeps (fun later => store.Unwritten later)
      (fun _ _ allowed unwritten => unwritten.step (asksNothing allowed)) (.refl store)
  exact (begun_continues program handle store).sends.keeps (fun later => store.Unwritten later)
    (fun _ _ allowed unwritten => unwritten.step (asksNothing allowed)) waits

/-- How a run ends whose transaction of the store has not begun. -/
structure Abandoned (cause : Failure) (later : Handle × Journal) (run : Run) : Prop where
  result : run.result = .error cause
  drained : ∃ drained, run.journal.events = later.2.events ++
      .closed :: (drained ++ [.moved (.errored cause), .failed cause]) ∧
    SettleAtOnce cause ((sorted program handle store).1.map Pending.issued) drained ∧
    ∀ settlement ∈ Event.settlements drained,
      settlement.1 ∈ (sorted program handle store).1.map Pending.issued ∧
        settlement.2 = .error cause ∨
      settlement.2 = .error .transactionClosed
  waiting : ∀ pending ∈ (sorted program handle store).1,
    Settlement.outcomesAt pending.issued.place (Event.settlements run.journal.events) =
      [.error cause]
  unasked : ∀ event ∈ run.journal.events, event.isRequest = false
  unwritten : store.Unwritten run.journal.store

/-- How a run ends whose transaction of the store was not committed: all its statements
have settled, and what they have written is there. -/
structure Uncommitted (transaction : Nat) (cause : StoreError) (later : Handle × Journal)
    (run : Run) : Prop where
  result : run.result = .error (.transactionFailed cause)
  told : run.journal.events =
    (carried schedule program handle store transaction later).events ++
      [.closed, .exchanged ⟨.commit transaction, .error cause⟩,
        .moved (.errored (.transactionFailed cause)), .failed (.transactionFailed cause)]
  settled : Event.settlements run.journal.events =
    Event.settlements (carried schedule program handle store transaction later).events
  written : run.journal.store.databases =
    (carried schedule program handle store transaction later).store.databases

variable {program} {handle} {store} {later : Handle × Journal}

theorem run_abandoned (carries : CarriesOut program handle store) {cause : Failure}
    (failed : begun program handle store = (.error cause, later)) :
    Abandoned program handle store cause later (run schedule program handle store) := by
  have settles := run_settles schedule program handle store
  have unwritten := begun_unwritten program handle store
  have ends := run_ends schedule program handle store
  generalize run schedule program handle store = done at ends settles ⊢
  cases ends with
  | unready other state =>
    obtain ⟨connection, ready⟩ := carries.ready
    cases state.symm.trans ready
  | idle connection ready nothing => exact absurd nothing carries.something
  | finished connection ready something transaction other began =>
    cases failed.symm.trans began
  | abandoned connection ready something same other also =>
    cases failed.symm.trans also
    have drained := abandoned_settle cause (sorted program handle store).1
    have events : (ended later.1 (later.2.note (.closed ::
        (sorted program handle store).1.flatMap fun each =>
          Transaction.abandoned cause each.issued)) (.error cause)).journal.events =
        later.2.events ++ .closed :: (((sorted program handle store).1.flatMap fun each =>
          Transaction.abandoned cause each.issued) ++
            [.moved (.errored cause), .failed cause]) := by
      rw [ended_events, Journal.note, List.append_assoc, List.cons_append]
      rfl
    refine ⟨ended_result .., ⟨_, events, drained, fun settlement settled =>
      drained.settled_or_closed settled⟩, fun pending waits => ?_, ?_, ?_⟩
    · -- No place settles twice, so it is enough to find one settlement.
      apply Settlement.outcomesAt_settled settles.distinct
      rw [events, Event.settlements_append]
      apply List.mem_append_right
      change _ ∈ Event.settlements (_ ++ _)
      rw [Event.settlements_append]
      exact List.mem_append_left _ (drained.waiting_settle (List.mem_map_of_mem waits))
    · exact ended_isRequest (abandoned_isRequest failed)
    · rw [failed] at unwritten
      rw [ended_store]
      exact unwritten

theorem run_uncommitted (carries : CarriesOut program handle store) {transaction : Nat}
    (began : begun program handle store = (.ok transaction, later)) {cause : StoreError}
    (failed : (committed schedule program handle store transaction later).1 = .error cause) :
    Uncommitted schedule program handle store transaction cause later
      (run schedule program handle store) := by
  have ends := run_ends schedule program handle store
  generalize run schedule program handle store = done at ends ⊢
  cases ends with
  | unready other state =>
    obtain ⟨connection, ready⟩ := carries.ready
    cases state.symm.trans ready
  | idle connection ready nothing => exact absurd nothing carries.something
  | abandoned connection ready something same other also => cases began.symm.trans also
  | finished connection ready something same other also =>
    cases began.symm.trans also
    refine ⟨by rw [ended_result, failed]; rfl, ?_, ?_, ?_⟩
    · have sent : (committed schedule program handle store transaction later).2.events =
          (carried schedule program handle store transaction later).events ++ [.closed] ++
            [.exchanged ⟨.commit transaction,
              (committed schedule program handle store transaction later).1⟩] := rfl
      rw [ended_events, sent, failed]
      simp only [List.append_assoc]
      rfl
    · rw [settlements_ended, settlements_committed]
    · rw [ended_store, committed_databases]

variable (program) (handle) (store)

/-- A run answers as it was settled when its transaction of the store began, whatever
becomes of its statements. Where that transaction does not begin nothing is written; where
its commit fails nothing else has failed with it. -/
theorem result_is_of_opening_and_commit :
    (run schedule program handle store).result = verdict program handle store ∧
    ((run schedule program handle store).result = .ok () ↔
      (∃ connection, (awaited handle store).1.connection = .ok connection) ∧
        ((sorted program handle store).1 = [] ∨ ∃ transaction later,
          begun program handle store = (.ok transaction, later) ∧
          (committed schedule program handle store transaction later).1 = .ok ())) ∧
    Event.setups (run schedule program handle store).journal.events =
      (match (awaited handle store).1.connection with
      | .ok _ => [handle.nextTransaction]
      | .error _ => []) ∧
    (CarriesOut program handle store → ∀ cause later,
      begun program handle store = (.error cause, later) →
      Abandoned program handle store cause later (run schedule program handle store)) ∧
    (CarriesOut program handle store → ∀ transaction later cause,
      begun program handle store = (.ok transaction, later) →
      (committed schedule program handle store transaction later).1 = .error cause →
      Uncommitted schedule program handle store transaction cause later
        (run schedule program handle store)) :=
  ⟨run_verdict schedule program handle store, run_isOk_iff schedule program handle store,
    run_setups schedule program handle store,
    fun carries _ _ => run_abandoned schedule carries,
    fun carries _ _ _ began => run_uncommitted schedule carries began⟩

/-- A handle that has opened its database. -/
def readied : Handle := (awaited (.new (.named "notes")) .empty).1

/-- The store with its database, in which an operation is made to fail. -/
def failing (operation : Operation) : Store :=
  (awaited (.new (.named "notes")) .empty).2.store.inject operation

theorem update_is_abandoned_or_uncommitted :
    (∃ cause later, begun [setting "a" 1] readied (failing .openDatabase) =
        (.error cause, later) ∧
      Abandoned [setting "a" 1] readied (failing .openDatabase) cause later
        (run .serial [setting "a" 1] readied (failing .openDatabase))) ∧
    ∃ transaction later cause, begun [setting "a" 1] readied (failing .commit) =
        (.ok transaction, later) ∧
      Uncommitted .serial [setting "a" 1] readied (failing .commit) transaction cause later
        (run .serial [setting "a" 1] readied (failing .commit)) := by
  constructor
  · have carries : CarriesOut [setting "a" 1] readied (failing .openDatabase) := by
      decide +kernel
    obtain ⟨-, -, -, abandons, -⟩ :=
      result_is_of_opening_and_commit .serial [setting "a" 1] readied (failing .openDatabase)
    have fails : (begun [setting "a" 1] readied (failing .openDatabase)).1.isOk = false := by
      decide +kernel
    cases failed : begun [setting "a" 1] readied (failing .openDatabase) with
    | mk result later =>
      cases result with
      | error cause => exact ⟨cause, later, rfl, abandons carries cause later failed⟩
      | ok transaction =>
        rw [failed] at fails
        cases fails
  · have carries : CarriesOut [setting "a" 1] readied (failing .commit) := by decide +kernel
    obtain ⟨-, succeeds, -, -, loses⟩ :=
      result_is_of_opening_and_commit .serial [setting "a" 1] readied (failing .commit)
    have begins : (begun [setting "a" 1] readied (failing .commit)).1.isOk = true := by
      decide +kernel
    have fails : (run .serial [setting "a" 1] readied (failing .commit)).result.isOk = false := by
      decide +kernel
    cases began : begun [setting "a" 1] readied (failing .commit) with
    | mk result later =>
      cases result with
      | error cause =>
        rw [began] at begins
        cases begins
      | ok transaction =>
        cases reply : (committed .serial [setting "a" 1] readied (failing .commit) transaction
            later).1 with
        | error cause =>
          exact ⟨transaction, later, cause, rfl, loses carries _ _ _ began reply⟩
        | ok value =>
          have success := succeeds.mpr ⟨carries.ready, .inr ⟨transaction, later, began, reply⟩⟩
          rw [success] at fails
          cases fails

end Transaction

end RecordSql
