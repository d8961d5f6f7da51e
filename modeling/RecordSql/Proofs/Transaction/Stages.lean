import Mathlib.Logic.Relation
import RecordSql.Proofs.Transaction.Agreement
import RecordSql.Proofs.Transaction.Lifecycle
import RecordSql.Proofs.Transaction.Verdict

/-!
How the lifecycle follows a run. A run goes from stage to stage: a statement that waits is
started, a task makes a request, or a task settles, and what its callback has issued waits.
Starting and settling are the steps that the lifecycle counts, so that at every stage it tells
how many tasks there are; no event that it meets is ignored, and it ends as the run does.
-/

namespace RecordSql

namespace Event

def isMove : Event → Bool
  | .moved _ => true
  | _ => false

/-- In the course of the events, right after `before`, the lifecycle takes this step. -/
def MovesAt (events before : List Event) (step : TransactionEvent) : Prop :=
  before ++ [.moved step] <+: events

variable {events more before : List Event} {step other : TransactionEvent}

theorem state_move (events : List Event) (step : TransactionEvent) :
    state (events ++ [.moved step]) = (state events).after step := by
  have moved : moves (events ++ [.moved step]) = moves events ++ [step] := List.filterMap_append
  rw [state, moved, TransactionState.afterAll_concat]
  rfl

theorem moves_unmoved (unmoved : ∀ event ∈ more, event.isMove = false) : moves more = [] := by
  apply List.filterMap_eq_nil_iff.mpr
  intro event member
  cases event with
  | moved step => cases unmoved _ member
  | _ => rfl

theorem state_unmoved (unmoved : ∀ event ∈ more, event.isMove = false) :
    state (events ++ more) = state events := by
  have same : moves (events ++ more) = moves events ++ moves more := List.filterMap_append
  rw [state, same, moves_unmoved unmoved, List.append_nil]
  rfl

theorem movesAt_move : MovesAt (events ++ [.moved other]) before step ↔
    (before = events ∧ step = other) ∨ MovesAt events before step := by
  unfold MovesAt
  rw [concat_prefix_concat_iff, Event.moved.injEq]

theorem movesAt_unmoved (unmoved : ∀ event ∈ more, event.isMove = false) :
    MovesAt (events ++ more) before step ↔ MovesAt events before step := by
  induction more using List.reverseRecOn with
  | nil => rw [List.append_nil]
  | append_singleton more last ih =>
    have still := ih fun event member => unmoved event (List.mem_append_left _ member)
    have quiet := unmoved last (List.mem_append_right _ List.mem_cons_self)
    rw [← still, ← List.append_assoc]
    unfold MovesAt
    rw [concat_prefix_concat_iff]
    constructor
    · rintro (⟨-, rfl⟩ | inside)
      · cases quiet
      · exact inside
    · exact .inr

/-- Whatever the lifecycle has met so far fitted its state. -/
structure Orderly (events : List Event) (now : TransactionState) : Prop where
  accepted : ∀ before step, MovesAt events before step → ((state before).after? step).isSome
  reached : state events = now

variable {now next : TransactionState}

theorem orderly_nil : Orderly [] .pending where
  accepted := by
    rintro before step inside
    exact absurd (List.prefix_nil.mp inside) (List.append_ne_nil_of_right_ne_nil _ nofun)
  reached := rfl

theorem Orderly.unmoved (orderly : Orderly events now)
    (unmoved : ∀ event ∈ more, event.isMove = false) : Orderly (events ++ more) now where
  accepted := fun before step moves =>
    orderly.accepted before step ((movesAt_unmoved unmoved).mp moves)
  reached := (state_unmoved unmoved).trans orderly.reached

theorem Orderly.move (orderly : Orderly events now) (fits : now.after? step = some next) :
    Orderly (events ++ [.moved step]) next where
  accepted := by
    intro before other moves
    rcases movesAt_move.mp moves with ⟨rfl, rfl⟩ | inside
    · rw [orderly.reached, fits]
      rfl
    · exact orderly.accepted before other inside
  reached := by
    rw [state_move, orderly.reached, TransactionState.after, fits]
    rfl

end Event

namespace Transaction

/-- Between two steps of a run: the statements that wait to be started, the tasks that are in
flight and the journal. -/
structure Stage where
  waiting : List Issued
  tasks : List Task
  journal : Journal

namespace Stage

/-- Whoever waits is started before the tasks go on. -/
def next? (schedule : Schedule) (mode : CollectionMode) (transaction : Nat) :
    Stage → Option Stage
  | ⟨issued :: waiting, tasks, journal⟩ =>
      some ⟨waiting, tasks ++ [Task.start mode issued], journal.move .statementIssued⟩
  | ⟨[], ⟨issued, .next call⟩ :: rest, journal⟩ =>
      let (reply, journal) :=
        journal.send (.request transaction call.collection call.request)
      some ⟨[], schedule.requeue ⟨issued, call.resume reply⟩ rest, journal⟩
  | ⟨[], ⟨issued, .done outcome⟩ :: rest, journal⟩ =>
      some ⟨issued.followers outcome, rest,
        ((journal.settle issued outcome).queue (issued.followers outcome)).move
          .statementSettled⟩
  | ⟨[], [], _⟩ => none

/-- One stage comes after another in a run. -/
def Leads (schedule : Schedule) (mode : CollectionMode) (transaction : Nat) :
    Stage → Stage → Prop :=
  Relation.ReflTransGen fun earlier later => earlier.next? schedule mode transaction = some later

variable {schedule : Schedule} {mode : CollectionMode} {transaction : Nat}
  {first earlier later : Stage}

theorem leads_started (waiting : List Issued) (tasks : List Task) (journal : Journal) :
    Leads schedule mode transaction ⟨waiting, tasks, journal⟩
      ⟨[], tasks ++ waiting.map (Task.start mode),
        journal.note (waiting.map fun _ => .moved .statementIssued)⟩ := by
  induction waiting generalizing tasks journal with
  | nil =>
    rw [List.map_nil, List.append_nil, List.map_nil, Journal.note, List.append_nil]
    exact .refl
  | cons issued rest ih =>
    have onward := ih (tasks ++ [Task.start mode issued]) (journal.move .statementIssued)
    rw [List.append_assoc, Journal.move, note_note] at onward
    exact .head rfl onward

/-- The turns of the tasks take a run through its stages. -/
theorem leads_runTasks {tasks : List Task} {journal : Journal}
    (leads : Leads schedule mode transaction first ⟨[], tasks, journal⟩) :
    Leads schedule mode transaction first
      ⟨[], [], runTasks schedule mode transaction tasks journal⟩ := by
  refine runTasks_keeps (fun tasks journal =>
    Leads schedule mode transaction first ⟨[], tasks, journal⟩) ?_ ?_ tasks journal leads
  · intro issued call rest journal held
    exact held.tail rfl
  · intro issued outcome rest journal held
    exact (held.tail rfl).trans (leads_started _ _ _)

/-- Every stage has one next, so every stage on the way leads to the last. -/
theorem Leads.onward {journal : Journal}
    (leads : Leads schedule mode transaction first later)
    (arrives : Leads schedule mode transaction first ⟨[], [], journal⟩) :
    Leads schedule mode transaction later ⟨[], [], journal⟩ := by
  have single : Relator.RightUnique fun earlier later : Stage =>
      earlier.next? schedule mode transaction = some later :=
    fun _ _ _ next also => Option.some.inj (next.symm.trans also)
  -- Both stages are on one way, and nothing comes after the one that has no tasks.
  rcases Relation.ReflTransGen.total_of_right_unique single leads arrives with onward | back
  · exact onward
  · rcases Relation.ReflTransGen.cases_head back with same | ⟨_, next, -⟩
    · exact same ▸ .refl
    · cases next

theorem requeue_length (schedule : Schedule) (task : Task) (rest : List Task) :
    (schedule.requeue task rest).length = rest.length + 1 := by
  cases schedule with
  | serial => rfl
  | interleaved => exact List.length_append

/-- The events of one step: some that the lifecycle does not meet, or those and one that it
meets last. -/
inductive Tells (earlier later : Stage) : Prop where
  | quietly (more : List Event) (events : later.journal.events = earlier.journal.events ++ more)
      (unmoved : ∀ event ∈ more, event.isMove = false)
      (same : later.tasks.length = earlier.tasks.length)
  | starting (events : later.journal.events =
        earlier.journal.events ++ [.moved .statementIssued])
      (longer : later.tasks.length = earlier.tasks.length + 1)
  | settling (more : List Event) (events : later.journal.events =
        earlier.journal.events ++ more ++ [.moved .statementSettled])
      (unmoved : ∀ event ∈ more, event.isMove = false)
      (shorter : earlier.tasks.length = later.tasks.length + 1)

theorem queue_unmoved (issued : List Issued) :
    ∀ event ∈ issued.map (fun each => Event.queued each.place), event.isMove = false := by
  intro event member
  obtain ⟨each, -, rfl⟩ := List.mem_map.mp member
  rfl

theorem next_tells (next : earlier.next? schedule mode transaction = some later) :
    Tells earlier later := by
  obtain ⟨_ | ⟨issued, waiting⟩, tasks, journal⟩ := earlier
  · obtain _ | ⟨⟨issued, call | outcome⟩, rest⟩ := tasks
    · cases next
    · cases next
      refine .quietly [.exchanged ⟨.request transaction call.collection call.request, _⟩] rfl ?_
        (requeue_length ..)
      intro event member
      rw [List.mem_singleton.mp member]
      rfl
    · cases next
      refine .settling (.settled issued outcome :: (issued.followers outcome).map
        fun each => .queued each.place) ?_ ?_ rfl
      · simp [Journal.settle, Journal.queue, Journal.move, Journal.note]
      · intro event member
        rcases List.mem_cons.mp member with rfl | queued
        · rfl
        · exact queue_unmoved _ event queued
  · cases next
    exact .starting rfl List.length_append

/-- At every stage the lifecycle counts the tasks. -/
def Steady (stage : Stage) : Prop :=
  Event.Orderly stage.journal.events (.active stage.tasks.length)

theorem Steady.step (steady : earlier.Steady)
    (next : earlier.next? schedule mode transaction = some later) : later.Steady := by
  unfold Steady at steady ⊢
  cases next_tells next with
  | quietly more events unmoved same =>
    rw [events, same]
    exact steady.unmoved unmoved
  | starting events longer =>
    rw [events, longer]
    exact steady.move rfl
  | settling more events unmoved shorter =>
    rw [shorter] at steady
    rw [events]
    exact (steady.unmoved unmoved).move rfl

theorem Steady.leads (steady : first.Steady) (leads : Leads schedule mode transaction first later) :
    later.Steady := by
  induction leads with
  | refl => exact steady
  | tail _ next ih => exact ih.step next

theorem Leads.extends (leads : Leads schedule mode transaction first later) :
    first.journal.events <+: later.journal.events := by
  induction leads with
  | refl => exact List.prefix_refl _
  | tail _ next ih =>
    refine ih.trans ?_
    cases next_tells next with
    | quietly more events | starting events =>
      rw [events]
      exact List.prefix_append _ _
    | settling more events =>
      rw [events, List.append_assoc]
      exact List.prefix_append _ _

/-- Between the first stage and a later one the lifecycle moves only to reach a stage. -/
theorem Leads.movesAt (leads : Leads schedule mode transaction first later) {before : List Event}
    {step : TransactionEvent} (moves : Event.MovesAt later.journal.events before step) :
    Event.MovesAt first.journal.events before step ∨
      ∃ stage, Leads schedule mode transaction first stage ∧
        stage.journal.events = before ++ [.moved step] := by
  induction leads with
  | refl => exact .inl moves
  | @tail earlier later leads next ih =>
    have here := leads.tail next
    cases next_tells next with
    | quietly more events unmoved =>
      rw [events, Event.movesAt_unmoved unmoved] at moves
      exact ih moves
    | starting events =>
      rw [events, Event.movesAt_move] at moves
      rcases moves with ⟨rfl, rfl⟩ | inside
      · exact .inr ⟨later, here, events⟩
      · exact ih inside
    | settling more events unmoved =>
      rw [events, Event.movesAt_move, Event.movesAt_unmoved unmoved] at moves
      rcases moves with ⟨rfl, rfl⟩ | inside
      · exact .inr ⟨later, here, events⟩
      · exact ih inside

end Stage

section Run

variable (schedule : Schedule) (program : List Statement) (handle : Handle) (store : Store)

/-- A run has begun a transaction of the store for the statements that can be carried out. -/
structure Undertakes (transaction : Nat) (later : Handle × Journal) : Prop
    extends CarriesOut program handle store where
  began : begun program handle store = (.ok transaction, later)

/-- All statements that can be carried out wait. -/
def firstStage (later : Handle × Journal) : Stage where
  waiting := (sorted program handle store).1.map Pending.issued
  tasks := []
  journal := later.2

/-- No task is left. -/
def lastStage (transaction : Nat) (later : Handle × Journal) : Stage where
  waiting := []
  tasks := []
  journal := carried schedule program handle store transaction later

theorem awaited_unmoved : ∀ event ∈ (awaited handle store).2.events, event.isMove = false := by
  obtain ⟨exchanges, events⟩ := (awaited_continues handle store).sends.events
  intro event member
  rw [events] at member
  obtain ⟨exchange, -, rfl⟩ := List.mem_map.mp member
  rfl

theorem triage_unmoved (mode : CollectionMode) (waiting : List Issued) :
    ∀ event ∈ (triage mode waiting).2, event.isMove = false := by
  fun_induction triage mode waiting
  case case1 =>
    rintro event ⟨⟩
  case case2 first rest plan valid pending later same ih =>
    rwa [same] at ih
  case case3 first rest cause invalid followers pending later same ih =>
    rw [same] at ih
    intro event member
    rcases List.mem_cons.mp member with rfl | further
    · rfl
    · rcases List.mem_append.mp further with queued | after
      · exact Stage.queue_unmoved followers event queued
      · exact ih event after

theorem abandoned_unmoved (cause : Failure) (waiting : List Pending) :
    ∀ event ∈ waiting.flatMap (fun each => abandoned cause each.issued),
      event.isMove = false := by
  intro event member
  have told := (abandoned_settle cause waiting).isSettled event member
  cases event with
  | moved step => cases told
  | _ => rfl

/-- So far the lifecycle has heard that the setup returned and nothing else. -/
structure Returned (events : List Event) : Prop where
  orderly : Event.Orderly events (.active 0)
  only : ∀ step, .moved step ∈ events → step = .setupReturned

theorem Returned.unmoved {events more : List Event} (returned : Returned events)
    (unmoved : ∀ event ∈ more, event.isMove = false) : Returned (events ++ more) where
  orderly := returned.orderly.unmoved unmoved
  only := by
    intro step member
    rcases List.mem_append.mp member with before | new
    · exact returned.only step before
    · cases unmoved _ new

theorem setUp_returned : Returned (setUp program handle store).events := by
  have earlier : ∀ event ∈ (awaited handle store).2.events ++ [.setup handle.takeNumber.1] ++
      (issuedAtSetup program).map (fun each => .queued each.place), event.isMove = false := by
    intro event member
    rcases List.mem_append.mp member with before | queued
    · rcases List.mem_append.mp before with awaits | setup
      · exact awaited_unmoved handle store event awaits
      · rw [List.mem_singleton.mp setup]
        rfl
    · exact Stage.queue_unmoved _ event queued
  have started := Event.orderly_nil.unmoved earlier
  rw [List.nil_append] at started
  refine ⟨started.move rfl, fun step member => ?_⟩
  rcases List.mem_append.mp member with before | last
  · cases earlier _ before
  · exact Event.moved.inj (List.mem_singleton.mp last)

theorem prepared_returned : Returned (prepared program handle store).events :=
  (setUp_returned program handle store).unmoved (triage_unmoved _ _)

theorem begun_returned : Returned (begun program handle store).2.2.events := by
  obtain ⟨exchanges, events⟩ := begun_events program handle store
  rw [events]
  refine (prepared_returned program handle store).unmoved fun event member => ?_
  obtain ⟨exchange, -, rfl⟩ := List.mem_map.mp member
  rfl

variable {program handle store} {transaction : Nat} {later : Handle × Journal} {stage : Stage}

theorem Undertakes.leads_last (undertakes : Undertakes program handle store transaction later) :
    Stage.Leads schedule handle.options.mode transaction (firstStage program handle store later)
      (lastStage schedule program handle store transaction later) := by
  have options := begun_options program handle store
  rw [undertakes.began] at options
  have started := @Stage.leads_started schedule handle.options.mode transaction
    ((sorted program handle store).1.map Pending.issued) [] later.2
  rw [List.nil_append, ← pending_started, List.map_map] at started
  rw [lastStage, carried, options]
  exact Stage.leads_runTasks started

theorem Undertakes.first_steady (undertakes : Undertakes program handle store transaction later) :
    (firstStage program handle store later).Steady := by
  have returned := begun_returned program handle store
  rw [undertakes.began] at returned
  exact returned.orderly

variable (program handle store) in
/-- The run passes this stage while it carries out its statements. -/
def Passes (stage : Stage) : Prop :=
  ∃ transaction later, Undertakes program handle store transaction later ∧
    Stage.Leads schedule handle.options.mode transaction (firstStage program handle store later)
      stage

variable (program handle store) in
/-- The lifecycle meets the return of the setup, and otherwise moves only to reach a stage. -/
def Located (events : List Event) : Prop :=
  ∀ before step, Event.MovesAt events before step → step = .setupReturned ∨
    ∃ stage, Passes schedule program handle store stage ∧
      stage.journal.events = before ++ [.moved step]

theorem Returned.located {events : List Event} (returned : Returned events) :
    Located schedule program handle store events := by
  intro before step moves
  exact .inl (returned.only step (moves.subset (List.mem_append_right _ List.mem_cons_self)))

theorem Located.unmoved {events more : List Event}
    (located : Located schedule program handle store events)
    (unmoved : ∀ event ∈ more, event.isMove = false) :
    Located schedule program handle store (events ++ more) := by
  intro before step moves
  exact located before step ((Event.movesAt_unmoved unmoved).mp moves)

variable {schedule}

theorem Passes.steady (passes : Passes schedule program handle store stage) : stage.Steady := by
  obtain ⟨transaction, later, undertakes, leads⟩ := passes
  exact undertakes.first_steady.leads leads

theorem Passes.located (passes : Passes schedule program handle store stage) :
    Located schedule program handle store stage.journal.events := by
  obtain ⟨transaction, later, undertakes, leads⟩ := passes
  intro before step moves
  rcases leads.movesAt moves with early | ⟨middle, reaches, events⟩
  · have returned := begun_returned program handle store
    rw [undertakes.began] at returned
    exact returned.located schedule before step early
  · exact .inr ⟨middle, ⟨transaction, later, undertakes, reaches⟩, events⟩

theorem Undertakes.passes (undertakes : Undertakes program handle store transaction later) :
    Passes schedule program handle store
      (lastStage schedule program handle store transaction later) :=
  ⟨transaction, later, undertakes, undertakes.leads_last schedule⟩

/-- The state in which a run leaves its lifecycle. -/
def lastState : Except Failure Unit → TransactionState
  | .ok () => .committed
  | .error cause => .failed cause

theorem lastState_ne_active (result : Except Failure Unit) (inFlight : Nat) :
    lastState result ≠ .active inFlight := by
  cases result <;> rintro ⟨⟩

theorem lastState_injective : Function.Injective lastState := by
  rintro (cause | value) (other | value) same <;> cases same <;> rfl

theorem after?_lastStep (result : Except Failure Unit) :
    (TransactionState.active 0).after? (lastStep result) = some (lastState result) := by
  cases result <;> rfl

variable (schedule program handle store)

/-- Before its end a run has kept its lifecycle in order, and the lifecycle is ready to end. -/
theorem run_prepares_end : ∃ later journal now,
    run schedule program handle store =
      ended later journal (run schedule program handle store).result ∧
    Event.Orderly journal.events now ∧ Located schedule program handle store journal.events ∧
    now.after? (lastStep (run schedule program handle store).result) =
      some (lastState (run schedule program handle store).result) := by
  have ends := run_ends schedule program handle store
  generalize run schedule program handle store = done at ends ⊢
  -- By how the run ends: before the setup the lifecycle is pending, later nothing is in flight.
  have closes : ∀ event ∈ [Event.closed], event.isMove = false := by simp [Event.isMove]
  cases ends with
  | unready cause state =>
    have nothing := awaited_unmoved handle store
    refine ⟨_, _, .pending, rfl, Event.orderly_nil.unmoved nothing, ?_, rfl⟩
    intro before step moves
    have met := moves.subset (List.mem_append_right _ List.mem_cons_self)
    cases nothing _ met
  | idle connection ready nothing =>
    have returned := (prepared_returned program handle store).unmoved closes
    exact ⟨_, _, .active 0, rfl, returned.orderly, returned.located schedule, rfl⟩
  | abandoned connection ready something cause later failed =>
    have returned := begun_returned program handle store
    rw [failed] at returned
    have settled : ∀ event ∈ .closed :: (sorted program handle store).1.flatMap fun each =>
        abandoned cause each.issued, event.isMove = false := by
      intro event member
      rcases List.mem_cons.mp member with rfl | waited
      · rfl
      · exact abandoned_unmoved cause _ event waited
    have whole := returned.unmoved settled
    exact ⟨_, _, .active 0, rfl, whole.orderly, whole.located schedule, rfl⟩
  | finished connection ready something transaction later began =>
    have passes : Passes schedule program handle store _ :=
      (Undertakes.mk ⟨⟨connection, ready⟩, something⟩ began).passes
    have commits : ∀ reply, ∀ event ∈ [Event.exchanged ⟨.commit transaction, reply⟩],
        event.isMove = false := by simp [Event.isMove]
    refine ⟨later.1, _, .active 0, by rw [ended_result], ?_, ?_, after?_lastStep _⟩
    · exact (passes.steady.unmoved closes).unmoved (commits _)
    · exact (passes.located.unmoved schedule closes).unmoved schedule (commits _)

/-- The lifecycle of a run in its course and at its end. -/
structure Follows : Prop where
  /-- No event that it meets is ignored. -/
  accepted : ∀ before step,
    Event.MovesAt (run schedule program handle store).journal.events before step →
      ((Event.state before).after? step).isSome
  /-- What can be carried out is carried out from stage to stage. -/
  staged : ∀ transaction later, Undertakes program handle store transaction later →
    Passes schedule program handle store (firstStage program handle store later) ∧
      Passes schedule program handle store
        (lastStage schedule program handle store transaction later)
  /-- At every stage as many statements are in flight as there are tasks. -/
  counted : ∀ stage, Passes schedule program handle store stage →
    stage.journal.events <+: (run schedule program handle store).journal.events ∧
      Event.state stage.journal.events = .active stage.tasks.length
  /-- So are they after every event that it meets. -/
  measured : ∀ before step inFlight,
    Event.MovesAt (run schedule program handle store).journal.events before step →
    Event.state (before ++ [.moved step]) = .active inFlight →
      (step = .setupReturned ∧ inFlight = 0) ∨
        ∃ stage, Passes schedule program handle store stage ∧
          stage.journal.events = before ++ [.moved step] ∧ inFlight = stage.tasks.length
  committed : Event.state (run schedule program handle store).journal.events = .committed ↔
    (run schedule program handle store).result = .ok ()
  failed : ∀ cause,
    Event.state (run schedule program handle store).journal.events = .failed cause ↔
      (run schedule program handle store).result = .error cause

variable {schedule program handle store}

theorem Passes.prefix_run (passes : Passes schedule program handle store stage) :
    stage.journal.events <+: (run schedule program handle store).journal.events := by
  obtain ⟨transaction, later, undertakes, leads⟩ := passes
  obtain ⟨connection, ready⟩ := undertakes.ready
  have onward := (leads.onward (undertakes.leads_last schedule)).extends
  rw [run_finished schedule ready undertakes.something undertakes.began, ended_events]
  refine onward.trans ?_
  exact ⟨[.closed] ++ [.exchanged ⟨.commit transaction, _⟩] ++ [.moved _, .ending _],
    by simp only [committed, Journal.send, Journal.note, List.append_assoc]; rfl⟩

variable (schedule program handle store)

/-- The lifecycle of a run ignores nothing that it meets, counts the statements that have been
started and have not settled, and ends committed or failed as the run answers. -/
theorem lifecycle_follows_run : Follows schedule program handle store := by
  obtain ⟨later, journal, now, same, orderly, located, fits⟩ :=
    run_prepares_end schedule program handle store
  have events := ended_events later journal (run schedule program handle store).result
  rw [← same, ← List.singleton_append, ← List.append_assoc] at events
  -- Behind the last step of the lifecycle there is only the ending, which it does not meet.
  have told : ∀ event ∈ [Event.ending (run schedule program handle store).result],
      event.isMove = false := by
    intro event member
    rw [List.mem_singleton.mp member]
    cases (run schedule program handle store).result <;> rfl
  have whole := (orderly.move fits).unmoved told
  rw [← events] at whole
  have state := whole.reached
  constructor
  · exact whole.accepted
  · intro transaction later undertakes
    exact ⟨⟨transaction, later, undertakes, .refl⟩, undertakes.passes⟩
  · intro stage passes
    exact ⟨passes.prefix_run, passes.steady.reached⟩
  · intro before step inFlight moves active
    have fitted := whole.accepted before step (events ▸ moves)
    rw [events, Event.movesAt_unmoved told, Event.movesAt_move] at moves
    rcases moves with ⟨rfl, rfl⟩ | inside
    · rw [(orderly.move fits).reached] at active
      exact absurd active (lastState_ne_active _ _)
    · rcases located before step inside with rfl | ⟨stage, passes, here⟩
      · rw [Event.state_move, TransactionState.after_setupReturned fitted] at active
        exact .inl ⟨rfl, (TransactionState.active.inj active).symm⟩
      · refine .inr ⟨stage, passes, here, ?_⟩
        rw [← here, passes.steady.reached] at active
        exact (TransactionState.active.inj active).symm
  · exact state ▸ lastState_injective.eq_iff (b := .ok ())
  · intro cause
    exact state ▸ lastState_injective.eq_iff (b := .error cause)

end Run

end Transaction

end RecordSql
