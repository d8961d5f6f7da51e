import RecordSql.Proofs.Handle.Coverage
import RecordSql.Proofs.Statement.Plan
import RecordSql.Proofs.Transaction.Settlement

/-!
Which statements of a run find their collection. Within a transaction of the
store a request fails for a missing collection exactly if the transaction does
not cover it, and this carries over from requests to statements. A run leaves
every handle on its database with true knowledge.
-/

namespace RecordSql

/-- The commands with which a run reaches the store once its transaction has begun. -/
def Command.IsWork : Command → Prop
  | .request _ _ _ | .commit _ => True
  | _ => False

theorem Command.IsWork.opensOnly {command : Command} (work : command.IsWork) (name : String) :
    command.OpensOnly name := by
  cases command with
  | request | commit => trivial
  | openDatabase | close | beginTransaction | abort | inject | snapshot => cases work

/-- A statement failed because a collection was not found. -/
def Outcome.NotFound (outcome : Outcome) : Prop :=
  ∃ kind cause, outcome = .error (.storage kind cause) ∧ cause.kind = .notFound

instance (outcome : Outcome) : Decidable outcome.NotFound :=
  match outcome with
  | .error (.storage kind cause) =>
      decidable_of_iff (cause.kind = .notFound)
        ⟨fun missing => ⟨kind, cause, rfl, missing⟩, by rintro ⟨_, _, ⟨⟩, missing⟩; exact missing⟩
  | .ok _ | .error (.openFailed _) | .error (.configuration _) | .error (.missingKey _)
  | .error (.missingTable _) | .error (.invalidCommand _) | .error (.badParameter _)
  | .error (.transactionFailed _) | .error .transactionClosed =>
      .isFalse (by rintro ⟨_, _, ⟨⟩, _⟩)

theorem Outcome.found (result : ResultSet) : ¬Outcome.NotFound (.ok result) := by
  rintro ⟨kind, cause, same, -⟩
  cases same

/-- Whether a request was refused because a collection was not found. -/
def Request.NotFound {asked : Request} (reply : Except StoreError asked.Answer) : Prop :=
  ∃ cause, reply = .error cause ∧ cause.kind = .notFound

/-- A running transaction of the store whose scope is there. -/
structure ActiveTransaction.Stands (active : ActiveTransaction) (transaction : Nat)
    (store : Store) : Prop where
  running : store.transactions.get? transaction = some active
  writable : active.mode = .readWrite
  present : ∀ collection ∈ active.scope,
    (store.collection? active.database collection).isSome = true

namespace ActiveTransaction.Stands

variable {active : ActiveTransaction} {transaction : Nat} {store : Store}

theorem request (stands : active.Stands transaction store) (other : Nat) (collection : String)
    (asked : Request) :
    active.Stands transaction (store.step (.request other collection asked)).2 where
  running := by
    have ends := Store.request_ends store other collection asked
    simp only [Store.step]
    generalize store.request other collection asked = result at ends
    cases ends with
    | finished | uncovered | readOnly | injected | missing | rejected | answered =>
      exact stands.running
  writable := stands.writable
  present := fun name member => store.step_collection_isSome _ _ name
    (stands.present name member)

theorem notFound_iff (stands : active.Stands transaction store) (collection : String)
    (asked : Request) :
    Request.NotFound (store.request transaction collection asked).1 ↔
      collection ∉ active.scope := by
  have ends := Store.request_ends store transaction collection asked
  generalize store.request transaction collection asked = result at ends
  cases ends with
  | finished absent => cases absent.symm.trans stands.running
  | uncovered other running outside =>
    cases running.symm.trans stands.running
    exact iff_of_true ⟨_, rfl, rfl⟩ outside
  | readOnly other running covered writes mode =>
    cases running.symm.trans stands.running
    cases mode.symm.trans stands.writable
  | injected other admitted pending =>
    cases admitted.running.symm.trans stands.running
    refine iff_of_false ?_ (not_not_intro admitted.covered)
    rintro ⟨cause, same, kind⟩
    cases same
    cases kind
  | missing other admitted calm absent =>
    cases admitted.running.symm.trans stands.running
    have present := stands.present collection admitted.covered
    rw [absent] at present
    cases present
  | rejected other admitted calm held present cause refusal =>
    cases admitted.running.symm.trans stands.running
    refine iff_of_false ?_ (not_not_intro admitted.covered)
    rintro ⟨told, same, kind⟩
    cases same
    exact Collection.refusal_found refusal kind
  | answered other admitted calm held present answer changed success =>
    cases admitted.running.symm.trans stands.running
    refine iff_of_false ?_ (not_not_intro admitted.covered)
    rintro ⟨cause, same, -⟩
    cases same

end ActiveTransaction.Stands

theorem Statement.planned_error {statement : Statement} {mode : CollectionMode}
    {cause : Failure} (failed : statement.planned mode = .error cause) :
    ¬Outcome.NotFound (.error cause) := by
  have silent : cause.cause? = none := planOf_error failed
  rintro ⟨kind, missing, same, -⟩
  cases same
  cases silent

/-- An outcome tells whether the statement's collection is covered. -/
def Issued.Misses (mode : CollectionMode) (scope : List String) (issued : Issued)
    (outcome : Outcome) : Prop :=
  outcome.NotFound ↔
    ∃ plan, issued.statement.planned mode = .ok plan ∧ plan.collection ∉ scope

theorem Issued.misses_of_error {mode : CollectionMode} {issued : Issued} {cause : Failure}
    (failed : issued.statement.planned mode = .error cause) (scope : List String) :
    issued.Misses mode scope (.error cause) := by
  apply iff_of_false (Statement.planned_error failed)
  rintro ⟨plan, planned, -⟩
  cases failed.symm.trans planned

/-- A task asks for the collection that its statement was planned on. -/
def Task.Faithful (mode : CollectionMode) (scope : List String) (task : Task) : Prop :=
  match task.progress with
  | .next call => ∃ plan, task.issued.statement.planned mode = .ok plan ∧
      call.collection = plan.collection
  | .done outcome => task.issued.Misses mode scope outcome

theorem Task.start_faithful (mode : CollectionMode) (scope : List String) (issued : Issued) :
    (Task.start mode issued).Faithful mode scope := by
  simp only [Task.start, Task.Faithful]
  cases planned : issued.statement.planned mode with
  | ok plan => exact ⟨plan, rfl, plan.call_collection⟩
  | error cause => exact Issued.misses_of_error planned scope

theorem Task.resume_faithful {mode : CollectionMode} {scope : List String} {issued : Issued}
    {call : Call} {plan : Plan} (planned : issued.statement.planned mode = .ok plan)
    (same : call.collection = plan.collection) (reply : Except StoreError call.request.Answer)
    (tells : Request.NotFound reply ↔ call.collection ∉ scope) :
    (Task.mk issued (call.resume reply)).Faithful mode scope := by
  have unique : (∃ other, issued.statement.planned mode = .ok other ∧
      other.collection ∉ scope) ↔ call.collection ∉ scope := by
    constructor
    · rintro ⟨other, also, outside⟩
      cases planned.symm.trans also
      rwa [same]
    · intro outside
      rw [same] at outside
      exact ⟨plan, planned, outside⟩
  cases reply with
  | error cause =>
    refine Iff.trans ?_ (tells.trans unique.symm)
    constructor
    · rintro ⟨kind, told, equal, missing⟩
      cases equal
      exact ⟨cause, rfl, missing⟩
    · rintro ⟨told, equal, missing⟩
      cases equal
      exact ⟨call.kind, cause, rfl, missing⟩
  | ok answer =>
    have covered : ¬(call.collection ∉ scope) := by
      rw [← tells]
      rintro ⟨cause, equal, -⟩
      cases equal
    cases call with
    | read collection key updates => exact ⟨plan, planned, same⟩
    | insert | select | write | delete =>
      exact iff_of_false (Outcome.found _) (mt unique.mp covered)

/-- What holds between two turns while a transaction of the store stands. -/
structure Transaction.Sees (mode : CollectionMode) (transaction : Nat)
    (active : ActiveTransaction) (tasks : List Task) (journal : Journal) : Prop where
  stands : active.Stands transaction journal.store
  tasks : ∀ task ∈ tasks, task.Faithful mode active.scope
  settled : ∀ issued outcome, .settled issued outcome ∈ journal.events →
    issued.Misses mode active.scope outcome

namespace Transaction

theorem mem_requeue {schedule : Schedule} {task other : Task} {rest : List Task} :
    other ∈ schedule.requeue task rest ↔ other = task ∨ other ∈ rest := by
  cases schedule with
  | serial => exact List.mem_cons
  | interleaved => simp only [Schedule.requeue, List.mem_append, List.mem_singleton, or_comm]

theorem runTasks_sees {schedule : Schedule} {mode : CollectionMode} {transaction : Nat}
    {active : ActiveTransaction} {tasks : List Task} {journal : Journal}
    (sees : Sees mode transaction active tasks journal) :
    Sees mode transaction active [] (runTasks schedule mode transaction tasks journal) := by
  refine runTasks_keeps (Sees mode transaction active) ?_ ?_ tasks journal sees
  · intro issued call rest journal held
    obtain ⟨plan, planned, same⟩ := held.tasks _ (List.mem_cons_self ..)
    refine ⟨held.stands.request transaction call.collection call.request, ?_, ?_⟩
    · intro task member
      rcases mem_requeue.mp member with rfl | waiting
      · exact Task.resume_faithful planned same _ (held.stands.notFound_iff _ _)
      · exact held.tasks task (List.mem_cons_of_mem _ waiting)
    · intro other outcome member
      rcases List.mem_append.mp member with before | sent
      · exact held.settled other outcome before
      · cases List.mem_singleton.mp sent
  · intro issued outcome rest journal held
    refine ⟨held.stands, ?_, ?_⟩
    · intro task member
      rcases List.mem_append.mp member with waiting | started
      · exact held.tasks task (List.mem_cons_of_mem _ waiting)
      · obtain ⟨follower, -, rfl⟩ := List.mem_map.mp started
        exact Task.start_faithful mode active.scope follower
    · intro other told member
      simp only [Journal.settle, Journal.queue, Journal.move, Journal.note, List.mem_append,
        List.mem_singleton, List.mem_map] at member
      rcases member with (((before | same) | ⟨each, -, queued⟩) | moved) | ⟨each, -, moved⟩
      · exact held.settled other told before
      · cases same
        exact held.tasks _ (List.mem_cons_self ..)
      · cases queued
      · cases moved
      · cases moved

theorem triage_misses {mode : CollectionMode} {waiting : List Issued} (scope : List String)
    {issued : Issued} {outcome : Outcome}
    (member : .settled issued outcome ∈ (triage mode waiting).2) :
    issued.Misses mode scope outcome := by
  fun_induction triage mode waiting
  case case1 => cases member
  case case2 first rest plan valid pending later same ih =>
    rw [same] at ih
    exact ih member
  case case3 first rest cause invalid followers pending later same ih =>
    rw [same] at ih
    rcases List.mem_cons.mp member with told | further
    · cases told
      exact Issued.misses_of_error invalid scope
    · rcases List.mem_append.mp further with queued | later
      · obtain ⟨each, -, told⟩ := List.mem_map.mp queued
        cases told
      · exact ih later

theorem triage_planned {mode : CollectionMode} {waiting : List Issued} {pending : Pending}
    (member : pending ∈ (triage mode waiting).1) :
    pending.issued.statement.planned mode = .ok pending.plan := by
  fun_induction triage mode waiting
  case case1 => cases member
  case case2 first rest plan valid others later same ih =>
    rw [same] at ih
    rcases List.mem_cons.mp member with rfl | further
    · exact valid
    · exact ih further
  case case3 first rest cause invalid followers others later same ih =>
    rw [same] at ih
    exact ih member

theorem mem_triage {mode : CollectionMode} {waiting : List Issued} {issued : Issued}
    {plan : Plan} (member : issued ∈ waiting)
    (planned : issued.statement.planned mode = .ok plan) :
    ⟨issued, plan⟩ ∈ (triage mode waiting).1 := by
  fun_induction triage mode waiting
  case case1 => cases member
  case case2 first rest other valid others later same ih =>
    rw [same] at ih
    rcases List.mem_cons.mp member with rfl | further
    · cases valid.symm.trans planned
      exact List.mem_cons_self ..
    · exact List.mem_cons_of_mem _ (ih further)
  case case3 first rest cause invalid followers others later same ih =>
    rw [same] at ih
    rcases List.mem_cons.mp member with rfl | further
    · cases invalid.symm.trans planned
    · exact ih (List.mem_append_left _ further)

variable (schedule : Schedule) (program : List Statement) (handle : Handle) (store : Store)

/-- After the handle was awaited, or after it has begun a transaction of the
store, a run sends requests and the commit alone. -/
theorem run_follows :
    ((run schedule program handle store).handle = (awaited handle store).1 ∧
      (run schedule program handle store).journal.store = (awaited handle store).2.store) ∨
    ((run schedule program handle store).handle = (begun program handle store).2.1 ∧
      ∀ Holds : Store → Prop,
        (∀ store command, command.IsWork → Holds store → Holds (store.step command).2) →
        Holds (begun program handle store).2.2.store →
        Holds (run schedule program handle store).journal.store) := by
  have committing : ∀ transaction (Holds : Store → Prop),
      (∀ store command, command.IsWork → Holds store → Holds (store.step command).2) →
      Holds (begun program handle store).2.2.store →
      Holds (committed schedule program handle store transaction
        (begun program handle store).2).2.store := by
    intro transaction Holds step beginning
    refine step _ (.commit transaction) trivial ?_
    refine runTasks_keeps (fun _ journal => Holds journal.store) ?_ ?_ _ _ beginning
    · intro issued call rest journal held
      exact step _ (.request transaction call.collection call.request) trivial held
    · intro issued outcome rest journal held
      exact held
  generalize ended : run schedule program handle store = done
  have ends := run_ends schedule program handle store
  rw [ended] at ends
  cases ends with
  | unready | idle => exact .inl ⟨ended_handle .., ended_store ..⟩
  | abandoned connection ready something cause later failed =>
    rw [ended_handle, ended_store, failed]
    exact .inr ⟨rfl, fun Holds step beginning => beginning⟩
  | finished connection ready something transaction later began =>
    have finished := committing transaction
    rw [began] at finished
    rw [ended_handle, ended_store, began]
    exact .inr ⟨rfl, finished⟩

variable {handle} {store}

theorem awaited_keeps {Holds : Store → Prop}
    (step : ∀ store command, command.OpensOnly handle.options.name → Holds store →
      Holds (store.step command).2)
    (initially : Holds store) : Holds (awaited handle store).2.store :=
  (awaited_continues handle store).sends.keeps Holds
    (fun store command allowed => step store command allowed.opensOnly) initially

theorem run_keeps {Holds : Store → Prop}
    (step : ∀ store command, command.OpensOnly handle.options.name → Holds store →
      Holds (store.step command).2)
    (initially : Holds store) : Holds (run schedule program handle store).journal.store := by
  have settled := awaited_keeps step initially
  rcases run_follows schedule program handle store with ⟨-, same⟩ | ⟨-, follows⟩
  · rw [same]
    exact settled
  · refine follows Holds (fun store command work => step store command (work.opensOnly _)) ?_
    have sends := (begun_continues program handle store).sends
    rw [awaited_options handle store] at sends
    exact sends.keeps Holds (fun store command allowed => step store command allowed.opensOnly)
      settled

theorem run_options : (run schedule program handle store).handle.options = handle.options := by
  rcases run_follows schedule program handle store with ⟨same, -⟩ | ⟨same, -⟩
  · rw [same, awaited_options]
  · rw [same, begun_options]

theorem awaited_knows (knows : handle.Knows store) :
    (awaited handle store).1.Knows (awaited handle store).2.store :=
  handle.takeNumber.2.settle_knows (.start store) knows

theorem run_knows (knows : handle.Knows store) :
    (run schedule program handle store).handle.Knows
      (run schedule program handle store).journal.store := by
  have settled := awaited_knows knows
  rcases run_follows schedule program handle store with ⟨same, sameStore⟩ | ⟨same, follows⟩
  · rw [same, sameStore]
    exact settled
  · rw [same]
    exact follows (begun program handle store).2.1.Knows
      (fun store command work held connection ready =>
        (held connection ready).step command (work.opensOnly _))
      ((awaited handle store).1.beginTransaction_knows (named program handle store)
        (prepared program handle store) settled)

section Ready

variable {schedule : Schedule} {program : List Statement} {connection : Connection}

theorem run_settles_setup (schedule : Schedule)
    (ready : (awaited handle store).1.connection = .ok connection)
    {issued : Issued} (member : issued ∈ issuedAtSetup program) :
    ∃ outcome, Settlement.outcomesAt issued.place
        (Event.settlements (run schedule program handle store).journal.events) = [outcome] ∧
      .settled issued outcome ∈ (run schedule program handle store).journal.events := by
  have settles := run_settles schedule program handle store
  have queued : issued.place ∈
      Event.queuedPlaces (run schedule program handle store).journal.events := by
    rcases settles.closing with ⟨number, before, after, -, same, -, -, closing⟩ | ⟨silent, -⟩
    · rw [same, Event.queuedPlaces_append, closing.accepted]
      apply List.mem_append_left _
      exact List.mem_map_of_mem (List.mem_append_left _ member)
    · obtain ⟨number, started⟩ := (run_setup_iff schedule program handle store).mpr ⟨_, ready⟩
      exact absurd started (silent number)
  obtain ⟨outcome, only⟩ := settles.once issued.place queued
  refine ⟨outcome, only, ?_⟩
  -- A place has one statement in the program, so it is this one that settled there.
  obtain ⟨other, settled, here⟩ := Settlement.mem_of_outcomesAt only
  have genuine := settles.genuine _ settled
  have standing := (Ledger.start program).genuine issued member
  rw [here] at genuine
  have same : other = issued := by
    obtain ⟨place, statement⟩ := other
    obtain ⟨otherPlace, otherStatement⟩ := issued
    cases here
    cases genuine.symm.trans standing
    rfl
  rw [← same]
  exact Event.mem_of_settlements settled

theorem prepared_misses (scope : List String) {issued : Issued} {outcome : Outcome}
    (member : .settled issued outcome ∈ (prepared program handle store).events) :
    issued.Misses handle.options.mode scope outcome := by
  rw [← awaited_options handle store]
  simp only [prepared, setUp, Journal.note, Journal.queue, Journal.move, List.mem_append,
    List.mem_singleton, List.mem_map] at member
  rcases member with (((before | set) | ⟨each, -, queued⟩) | moved) | settled
  · cases awaited_inner handle store _ before
  · cases set
  · cases queued
  · cases moved
  · exact triage_misses scope settled

theorem begun_misses (scope : List String) {issued : Issued} {outcome : Outcome}
    (member : .settled issued outcome ∈ (begun program handle store).2.2.events) :
    issued.Misses handle.options.mode scope outcome := by
  obtain ⟨exchanges, events⟩ := begun_events program handle store
  rw [events] at member
  rcases List.mem_append.mp member with before | sent
  · exact prepared_misses scope before
  · cases Event.inner_exchanges exchanges _ sent

variable {active : ActiveTransaction} {transaction : Nat} {later : Handle × Journal}

theorem carried_misses (began : begun program handle store = (.ok transaction, later))
    (stands : active.Stands transaction later.2.store) {issued : Issued} {outcome : Outcome}
    (member : .settled issued outcome ∈
      (carried schedule program handle store transaction later).events) :
    issued.Misses handle.options.mode active.scope outcome := by
  have options := begun_options program handle store
  have before : ∀ issued outcome,
      .settled issued outcome ∈ (begun program handle store).2.2.events →
      issued.Misses handle.options.mode active.scope outcome :=
    fun issued outcome => begun_misses active.scope
  rw [began] at options before
  have sees : Sees handle.options.mode transaction active
      ((sorted program handle store).1.map Pending.task)
      (later.2.note ((sorted program handle store).1.map fun _ => .moved .statementIssued)) := by
    refine ⟨stands, ?_, ?_⟩
    · intro task member
      obtain ⟨pending, waits, rfl⟩ := List.mem_map.mp member
      have planned := triage_planned waits
      rw [awaited_options handle store] at planned
      exact ⟨pending.plan, planned, pending.plan.call_collection⟩
    · intro other told member
      rcases List.mem_append.mp member with earlier | moved
      · exact before other told earlier
      · obtain ⟨each, -, same⟩ := List.mem_map.mp moved
        cases same
  rw [carried, options] at member
  exact (runTasks_sees sees).settled issued outcome member

theorem run_misses (ready : (awaited handle store).1.connection = .ok connection)
    (began : begun program handle store = (.ok transaction, later))
    (stands : active.Stands transaction later.2.store) {issued : Issued} {outcome : Outcome}
    (member : .settled issued outcome ∈
      (run schedule program handle store).journal.events) :
    issued.Misses handle.options.mode active.scope outcome := by
  generalize ended : run schedule program handle store = done at member
  have ends := run_ends schedule program handle store
  rw [ended] at ends
  cases ends with
  | unready cause state => cases state.symm.trans ready
  | idle known nothing =>
    rcases List.mem_append.mp (settled_of_ended member) with before | closed
    · exact prepared_misses _ before
    · cases List.mem_singleton.mp closed
  | abandoned known state something cause other failed => cases failed.symm.trans began
  | finished known state something number other also =>
    cases also.symm.trans began
    rcases List.mem_append.mp (settled_of_ended member) with before | sent
    · rcases List.mem_append.mp before with carried | closed
      · exact carried_misses began stands carried
      · cases List.mem_singleton.mp closed
    · cases List.mem_singleton.mp sent

theorem planned_mem_needed {issued : Issued} {plan : Plan}
    (member : issued ∈ issuedAtSetup program)
    (planned : issued.statement.planned handle.options.mode = .ok plan) :
    plan.collection ∈ (awaited handle store).1.needed (named program handle store) := by
  rw [← awaited_options handle store] at planned
  simp only [Handle.needed]
  cases mode : (awaited handle store).1.options.mode with
  | fixed =>
    rw [mode] at planned
    rw [planOf_fixed planned]
    exact List.mem_singleton_self _
  | perStatement => exact List.mem_map_of_mem (mem_triage member planned)

/-- A statement of the setup misses its collection where the handle has
overlooked it, and nowhere else. -/
theorem run_overlooks (ready : (awaited handle store).1.state = .ready connection)
    (knows : handle.Knows store)
    (began : begun program handle store = (.ok transaction, later)) {issued : Issued}
    (member : issued ∈ issuedAtSetup program) :
    ∃ outcome, Settlement.outcomesAt issued.place
        (Event.settlements (run schedule program handle store).journal.events) = [outcome] ∧
      (outcome.NotFound ↔ ∃ plan, issued.statement.planned handle.options.mode = .ok plan ∧
        (awaited handle store).1.Overlooks connection (awaited handle store).2.store
          plan.collection) := by
  have known : (awaited handle store).1.connection = .ok connection := by
    simp only [Handle.connection, ready]
  obtain ⟨active, running, here, writable, present, covers⟩ :=
    Handle.begin_covers ready began (awaited_knows knows)
  rw [← here] at present
  obtain ⟨outcome, only, settled⟩ := run_settles_setup schedule known member
  refine ⟨outcome, only, (run_misses known began ⟨running, writable, present⟩ settled).trans ?_⟩
  apply exists_congr
  intro plan
  apply and_congr_right
  intro planned
  rw [covers plan.collection (planned_mem_needed member planned), Classical.not_not]
  exact Iff.rfl

end Ready

end Transaction

end RecordSql
