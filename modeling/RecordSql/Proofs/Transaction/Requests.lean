import RecordSql.Proofs.Transaction.Failures

/-!
Whose the requests of a run are. A request is made in the turn of a task, and so for the
statement of that task; a statement that cannot be planned has no task that makes one.
The statements that wait when the transaction of the store begins make their first
requests in their order, whatever the schedule, and before anybody else.
-/

namespace RecordSql

/-- A request that a plan makes: its first one, or one that follows on a reply. -/
inductive Plan.Makes (plan : Plan) : Call → Prop where
  | first : plan.Makes plan.call
  | next {call later : Call} (made : plan.Makes call)
      (reply : Except StoreError call.request.Answer) (goesOn : call.resume reply = .next later) :
      plan.Makes later

/-- The requests among events. -/
def Event.requests (events : List Event) : List Event := events.filter Event.isRequest

theorem Event.requests_append (left right : List Event) :
    requests (left ++ right) = requests left ++ requests right := List.filter_append ..

theorem Event.requests_of_none {events : List Event}
    (none : ∀ event ∈ events, event.isRequest = false) : requests events = [] :=
  List.filter_eq_nil_iff.mpr fun event member => by simp [none event member]

namespace Transaction

/-- A request and the reply that it meets in a store. -/
def asking (store : Store) (transaction : Nat) (call : Call) : Event :=
  .exchanged ⟨.request transaction call.collection call.request,
    (store.request transaction call.collection call.request).1⟩

theorem requests_asking (journal : Journal) (transaction : Nat) (call : Call) :
    Event.requests
        (journal.send (.request transaction call.collection call.request)).2.events =
      Event.requests journal.events ++ [asking journal.store transaction call] :=
  Event.requests_append ..

theorem requests_settling (issued : Issued) (outcome : Outcome) (journal : Journal) :
    Event.requests (journal.note (settling issued outcome)).events =
      Event.requests journal.events := by
  have quiet : Event.requests (settling issued outcome) = [] :=
    Event.requests_of_none fun event member =>
      Event.isRequest_silent (settling_silent issued outcome event member)
  rw [Journal.note, Event.requests_append, quiet, List.append_nil]

/-- The requests that tasks make until none is left, each with the statement that it is
made for. -/
def asked (schedule : Schedule) (mode : CollectionMode) (transaction : Nat) (tasks : List Task)
    (store : Store) : List (Issued × Event) :=
  match tasks with
  | [] => []
  | ⟨issued, .next call⟩ :: rest =>
      (issued, asking store transaction call) ::
        asked schedule mode transaction
          (schedule.requeue ⟨issued, call.resume
            (store.request transaction call.collection call.request).1⟩ rest)
          (store.request transaction call.collection call.request).2
  | ⟨issued, .done outcome⟩ :: rest =>
      asked schedule mode transaction
        (rest ++ (issued.followers outcome).map (Task.start mode)) store
termination_by Task.totalTurns tasks
decreasing_by
  · have fewer := call.requests_resume_lt
      (store.request transaction call.collection call.request).1
    rw [Task.totalTurns_requeue]
    simp only [Task.totalTurns, Task.turns, Progress.requests_next]
    omega
  · have fewer := issued.turns_followers_lt outcome
    have started := Task.totalTurns_start_le mode (issued.followers outcome)
    have least := issued.statement.three_le_turns
    rw [Task.totalTurns_append]
    simp only [Task.totalTurns, Task.turns, Progress.requests_done]
    omega

/-- What has been asked for a statement is what its plan makes. -/
def Own (mode : CollectionMode) (transaction : Nat) (each : Issued × Event) : Prop :=
  ∃ plan call store, each.1.statement.planned mode = .ok plan ∧ plan.Makes call ∧
    each.2 = asking store transaction call

/-- The requests of a statement that begin with its first one. -/
def Starts (transaction : Nat) (pending : Pending) (block : List (Issued × Event)) : Prop :=
  ∃ store rest, block = (pending.issued, asking store transaction pending.plan.call) :: rest ∧
    ∀ each ∈ rest, each.1 = pending.issued

section Asked

variable (schedule : Schedule) (mode : CollectionMode) (transaction : Nat)

theorem runTasks_extends (tasks : List Task) (journal : Journal) : ∃ more,
      (runTasks schedule mode transaction tasks journal).events = journal.events ++ more := by
  refine runTasks_keeps (fun _ later => ∃ more, later.events = journal.events ++ more) ?_ ?_
    tasks journal ⟨[], (List.append_nil _).symm⟩
  · rintro issued call rest later ⟨more, same⟩
    refine ⟨more ++ [asking later.store transaction call], ?_⟩
    rw [← List.append_assoc, ← same]
    rfl
  · rintro issued outcome rest later ⟨more, same⟩
    refine ⟨more ++ settling issued outcome, ?_⟩
    rw [settle_eq_note, Journal.note, same, List.append_assoc]

/-- These are all the requests that running the tasks adds to the journal. -/
theorem runTasks_asked (tasks : List Task) (journal : Journal) :
    Event.requests (runTasks schedule mode transaction tasks journal).events =
      Event.requests journal.events ++
        (asked schedule mode transaction tasks journal.store).map Prod.snd := by
  fun_induction runTasks schedule mode transaction tasks journal with
  | case1 journal => rw [asked, List.map_nil, List.append_nil]
  | case2 journal issued call rest reply later sent ih =>
    obtain rfl : (journal.send (.request transaction call.collection call.request)).2 = later :=
      congrArg Prod.snd sent
    obtain rfl : (journal.send (.request transaction call.collection call.request)).1 = reply :=
      congrArg Prod.fst sent
    rw [asked, ih, requests_asking, List.append_assoc]
    rfl
  | case3 journal issued outcome rest followers settled later ih =>
    have noted : later = journal.note (settling issued outcome) := settle_eq_note ..
    rw [asked, ih, noted, requests_settling]
    rfl

/-- Only the plan of a statement makes its requests. -/
theorem asked_own {tasks : List Task} (store : Store)
    (planned : ∀ task ∈ tasks, ∀ call, task.progress = .next call →
      ∃ plan, task.issued.statement.planned mode = .ok plan ∧ plan.Makes call) :
    ∀ each ∈ asked schedule mode transaction tasks store, Own mode transaction each := by
  fun_induction asked schedule mode transaction tasks store with
  | case1 store => rintro each ⟨⟩
  | case2 store issued call rest ih =>
    obtain ⟨plan, valid, made⟩ := planned _ (List.mem_cons_self ..) call rfl
    intro each member
    rcases List.mem_cons.mp member with rfl | further
    · exact ⟨plan, call, store, valid, made, rfl⟩
    · refine ih (fun task waits next goesOn => ?_) each further
      rcases mem_requeue.mp waits with rfl | behind
      · exact ⟨plan, valid, made.next _ goesOn⟩
      · exact planned task (List.mem_cons_of_mem _ behind) next goesOn
  | case3 store issued outcome rest ih =>
    refine ih fun task waits next goesOn => ?_
    rcases List.mem_append.mp waits with behind | started
    · exact planned task (List.mem_cons_of_mem _ behind) next goesOn
    · -- A follower starts with the first request of its own plan, if it has one.
      obtain ⟨follower, -, rfl⟩ := List.mem_map.mp started
      simp only [Task.start] at goesOn ⊢
      cases valid : follower.statement.planned mode with
      | error cause => simp [valid] at goesOn
      | ok plan =>
        simp only [valid] at goesOn
        cases goesOn
        exact ⟨plan, rfl, .first⟩

/-- Under the serial schedule the first task makes all its requests before others do. -/
theorem asked_serial (issued : Issued) (progress : Progress) (rest : List Task) (store : Store) :
    ∃ block behind later, (∀ each ∈ block, each.1 = issued) ∧
      asked .serial mode transaction (⟨issued, progress⟩ :: rest) store =
        block ++ asked .serial mode transaction (rest ++ behind) later := by
  -- On the requests that are left: a reply may lead to another one.
  induction left : progress.requests using Nat.strongRecOn generalizing progress store with
  | ind count ih =>
    cases progress with
    | done outcome =>
      refine ⟨[], (issued.followers outcome).map (Task.start mode), store, ?_, ?_⟩
      · rintro each ⟨⟩
      · rw [asked, List.nil_append]
    | next call =>
      have fewer := call.requests_resume_lt
        (store.request transaction call.collection call.request).1
      obtain ⟨block, behind, later, same, others⟩ := ih _ (Nat.lt_of_lt_of_eq fewer left) _
        (store.request transaction call.collection call.request).2 rfl
      refine ⟨(issued, asking store transaction call) :: block, behind, later, ?_, ?_⟩
      · intro each member
        rcases List.mem_cons.mp member with rfl | further
        · rfl
        · exact same each further
      · rw [asked, Schedule.requeue, others, List.cons_append]

theorem asked_pending (pending : Pending) (rest : List Task) (store : Store) :
    ∃ block behind later, Starts transaction pending block ∧
      asked schedule mode transaction (pending.task :: rest) store =
        block ++ asked schedule mode transaction (rest ++ behind) later := by
  cases schedule with
  | serial =>
    obtain ⟨block, behind, later, same, others⟩ := asked_serial mode transaction pending.issued
      (pending.plan.call.resume (store.request transaction pending.plan.call.collection
        pending.plan.call.request).1) rest
      (store.request transaction pending.plan.call.collection pending.plan.call.request).2
    refine ⟨(pending.issued, asking store transaction pending.plan.call) :: block, behind, later,
      ⟨store, block, rfl, same⟩, ?_⟩
    rw [Pending.task, asked, Schedule.requeue, others, List.cons_append]
  | interleaved =>
    refine ⟨[(pending.issued, asking store transaction pending.plan.call)],
      [⟨pending.issued, pending.plan.call.resume (store.request transaction
        pending.plan.call.collection pending.plan.call.request).1⟩],
      (store.request transaction pending.plan.call.collection pending.plan.call.request).2,
      ⟨store, [], rfl, by rintro each ⟨⟩⟩, ?_⟩
    rw [Pending.task, asked, Schedule.requeue, List.singleton_append]

/-- Those that wait start in their order, before whatever comes behind them. -/
theorem asked_starts (waiting : List Pending) (behind : List Task) (store : Store) :
    ∃ (blocks : List (Pending × List (Issued × Event))) (later : List (Issued × Event)),
      blocks.map Prod.fst = waiting ∧
      (∀ block ∈ blocks, Starts transaction block.1 block.2) ∧
      asked schedule mode transaction (waiting.map Pending.task ++ behind) store =
        blocks.flatMap Prod.snd ++ later := by
  induction waiting generalizing behind store with
  | nil => exact ⟨[], _, rfl, by rintro block ⟨⟩, rfl⟩
  | cons pending rest ih =>
    -- What the first one has still to do goes behind all that wait.
    obtain ⟨block, more, next, starts, first⟩ := asked_pending schedule mode transaction pending
      (rest.map Pending.task ++ behind) store
    obtain ⟨blocks, later, same, others, remaining⟩ := ih (behind ++ more) next
    refine ⟨(pending, block) :: blocks, later, by rw [List.map_cons, same], ?_, ?_⟩
    · intro each member
      rcases List.mem_cons.mp member with rfl | further
      · exact starts
      · exact others each further
    · rw [List.map_cons, List.cons_append, first, List.append_assoc, remaining,
        List.flatMap_cons, List.append_assoc]

end Asked

section Run

variable (schedule : Schedule) (program : List Statement) (handle : Handle) (store : Store)

/-- The requests of a run, each with the statement that it is made for. -/
def requested : List (Issued × Event) :=
  match begun program handle store with
  | (.error _, _) => []
  | (.ok transaction, later) => asked schedule handle.options.mode transaction
      ((sorted program handle store).1.map Pending.task) later.2.store

variable {program} {handle} {store}

theorem requested_of_error {cause : Failure} {later : Handle × Journal}
    (failed : begun program handle store = (.error cause, later)) :
    requested schedule program handle store = [] := by
  simp only [requested, failed]

theorem requested_of_ok {transaction : Nat} {later : Handle × Journal}
    (began : begun program handle store = (.ok transaction, later)) :
    requested schedule program handle store = asked schedule handle.options.mode transaction
      ((sorted program handle store).1.map Pending.task) later.2.store := by
  simp only [requested, began]

theorem begun_of_unready {cause : Failure}
    (state : (awaited handle store).1.connection = .error cause) :
    begun program handle store =
      (.error cause, (awaited handle store).1, prepared program handle store) := by
  simp only [begun, Handle.beginTransaction, Handle.cover, state]

theorem requested_of_nothing (nothing : (sorted program handle store).1 = []) :
    requested schedule program handle store = [] := by
  cases began : begun program handle store with
  | mk result later =>
    cases result with
    | error cause => exact requested_of_error schedule began
    | ok transaction =>
      rw [requested_of_ok schedule began, nothing, List.map_nil, asked]

/-- When the tasks get their first turn no request has been made. -/
theorem issued_requests {transaction : Nat} {later : Handle × Journal}
    (began : begun program handle store = (.ok transaction, later)) :
    Event.requests (later.2.note ((sorted program handle store).1.map
      fun _ => .moved .statementIssued)).events = [] := by
  have silent := begun_isRequest program handle store
  rw [began] at silent
  refine Event.requests_of_none fun event member => ?_
  rcases List.mem_append.mp member with before | issues
  · exact silent event before
  · exact Event.isRequest_silent (moves_silent _ _ event issues)

theorem carried_requests {transaction : Nat} {later : Handle × Journal}
    (began : begun program handle store = (.ok transaction, later)) :
    Event.requests (carried schedule program handle store transaction later).events =
      (requested schedule program handle store).map Prod.snd := by
  have options := begun_options program handle store
  rw [began] at options
  rw [carried, runTasks_asked, issued_requests began, options, requested_of_ok schedule began]
  rfl

theorem ended_requests (last : Handle) (journal : Journal) (result : Except Failure Unit) :
    Event.requests (ended last journal result).journal.events =
      Event.requests journal.events := by
  rw [ended_events, Event.requests_append]
  cases result <;> exact List.append_nil _

/-- A run makes no other requests than those of its statements. -/
theorem run_requests : Event.requests (run schedule program handle store).journal.events =
    (requested schedule program handle store).map Prod.snd := by
  have ends := run_ends schedule program handle store
  generalize run schedule program handle store = done at ends ⊢
  cases ends with
  | unready cause state =>
    rw [requested_of_error schedule (begun_of_unready state), ended_requests]
    exact Event.requests_of_none (awaited_isRequest handle store)
  | idle connection ready nothing =>
    rw [requested_of_nothing schedule nothing, ended_requests, Journal.note,
      Event.requests_append, Event.requests_of_none (prepared_isRequest program handle store)]
    rfl
  | abandoned connection ready something cause later failed =>
    rw [requested_of_error schedule failed, ended_requests]
    exact Event.requests_of_none (abandoned_isRequest failed)
  | finished connection ready something transaction later began =>
    rw [ended_requests, committed, Journal.send, Journal.note, Event.requests_append,
      Event.requests_append, carried_requests schedule began]
    exact (List.append_nil _).trans (List.append_nil _)

theorem requested_own {each : Issued × Event}
    (member : each ∈ requested schedule program handle store) :
    ∃ transaction, (begun program handle store).1 = .ok transaction ∧
      Own handle.options.mode transaction each := by
  cases began : begun program handle store with
  | mk result later =>
    cases result with
    | error cause =>
      rw [requested_of_error schedule began] at member
      cases member
    | ok transaction =>
      rw [requested_of_ok schedule began] at member
      refine ⟨transaction, rfl, asked_own schedule _ transaction later.2.store ?_ each member⟩
      intro task waits call goesOn
      obtain ⟨pending, waiting, rfl⟩ := List.mem_map.mp waits
      have valid := triage_planned waiting
      rw [awaited_options handle store] at valid
      cases goesOn
      exact ⟨pending.plan, valid, .first⟩

theorem requested_starts {transaction : Nat} {later : Handle × Journal}
    (began : begun program handle store = (.ok transaction, later)) :
    ∃ (blocks : List (Pending × List (Issued × Event))) (others : List (Issued × Event)),
      blocks.map Prod.fst = (sorted program handle store).1 ∧
      (∀ block ∈ blocks, Starts transaction block.1 block.2) ∧
      requested schedule program handle store = blocks.flatMap Prod.snd ++ others := by
  have starts := asked_starts schedule handle.options.mode transaction
    (sorted program handle store).1 [] later.2.store
  rw [List.append_nil] at starts
  rwa [requested_of_ok schedule began]

end Run

end Transaction

end RecordSql
