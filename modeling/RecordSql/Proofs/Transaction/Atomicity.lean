import Mathlib.Data.List.Nodup
import RecordSql.Proofs.Transaction.Requests

/-!
What the requests of a failed statement leave behind. Each request that is made for a
statement has its place among the events of the run, and there it leaves the databases as
they were or carries the statement out. A statement settles once; none that is made for
a failed one has therefore changed a database.
-/

namespace RecordSql

namespace Transaction

/-- A request made for a statement stands among the events behind these requests. There it
leaves the databases as they were, or it carries the statement out. -/
def StandsAfter (store : Store) (before events : List Event) (each : Issued × Event) : Prop :=
  ∃ past future, events = past ++ each.2 :: future ∧ Event.requests past = before ∧
    ((each.2.after (Event.replay store past)).databases = (Event.replay store past).databases ∨
      ∃ result, (each.1, .ok result) ∈ Event.settlements events)

section Tasks

variable {schedule : Schedule} {mode : CollectionMode} {transaction : Nat} {store : Store}

/-- A task that has ended settles as it is. -/
theorem ended_task_settles {tasks : List Task} {journal : Journal} {issued : Issued}
    {outcome : Outcome} (ended : ⟨issued, .done outcome⟩ ∈ tasks) :
    (issued, outcome) ∈
      Event.settlements (runTasks schedule mode transaction tasks journal).events := by
  have kept : ⟨issued, .done outcome⟩ ∈ ([] : List Task) ∨ (issued, outcome) ∈
      Event.settlements (runTasks schedule mode transaction tasks journal).events := by
    refine runTasks_keeps (fun tasks journal => ⟨issued, .done outcome⟩ ∈ tasks ∨
      (issued, outcome) ∈ Event.settlements journal.events) ?_ ?_ tasks journal (.inl ended)
    · rintro other call rest journal (waits | settled)
      · rcases List.mem_cons.mp waits with same | behind
        · cases same
        · exact .inl (mem_requeue.mpr (.inr behind))
      · rw [settlements_sent]
        exact .inr settled
    · rintro other told rest journal (waits | settled)
      all_goals rw [settle_eq_note, Journal.note, Event.settlements_append, settlements_settling]
      · rcases List.mem_cons.mp waits with same | behind
        · cases same
          exact .inr (List.mem_append_right _ (List.mem_singleton_self _))
        · exact .inl (List.mem_append_left _ behind)
      · exact .inr (List.mem_append_left _ settled)
  rcases kept with waits | settled
  · cases waits
  · exact settled

theorem runTasks_stands {tasks : List Task} (journal : Journal)
    {earlier late : List (Issued × Event)} {each : Issued × Event}
    (split : asked schedule mode transaction tasks journal.store = earlier ++ each :: late)
    (replayed : journal.store = Event.replay store journal.events) :
    StandsAfter store (Event.requests journal.events ++ earlier.map Prod.snd)
      (runTasks schedule mode transaction tasks journal).events each := by
  fun_induction runTasks schedule mode transaction tasks journal generalizing earlier
  case case1 journal =>
    rw [asked] at split
    cases earlier <;> cases split
  case case2 journal issued call rest reply later sent ih =>
    obtain rfl : (journal.send (.request transaction call.collection call.request)).1 = reply :=
      congrArg Prod.fst sent
    obtain rfl : (journal.send (.request transaction call.collection call.request)).2 = later :=
      congrArg Prod.snd sent
    rw [asked] at split
    cases earlier with
    | nil =>
      obtain ⟨rfl, -⟩ := List.cons.inj split
      obtain ⟨more, events⟩ := runTasks_extends schedule mode transaction
        (schedule.requeue ⟨issued, call.resume
          (journal.send (.request transaction call.collection call.request)).1⟩ rest)
        (journal.send (.request transaction call.collection call.request)).2
      refine ⟨journal.events, more, ?_, (List.append_nil _).symm, ?_⟩
      · rw [events, ← List.singleton_append, ← List.append_assoc]
        rfl
      · rw [← replayed]
        rcases call.spares_or_finishes journal.store transaction with spared | ⟨result, finished⟩
        · exact .inl spared
        · refine .inr ⟨result, ended_task_settles (mem_requeue.mpr (.inl ?_))⟩
          exact congrArg (Task.mk issued) finished.symm
    | cons first others =>
      obtain ⟨rfl, remaining⟩ := List.cons.inj split
      obtain ⟨past, future, events, before, spares⟩ :=
        ih remaining (Journal.replay_send replayed _)
      refine ⟨past, future, events, ?_, spares⟩
      rw [before, requests_asking, List.append_assoc]
      rfl
  case case3 journal issued outcome rest followers settled later ih =>
    have noted : later = journal.note (settling issued outcome) := settle_eq_note ..
    rw [asked] at split
    obtain ⟨past, future, events, before, spares⟩ :=
      ih split (noted ▸ Journal.replay_note replayed (settling_silent issued outcome))
    refine ⟨past, future, events, ?_, spares⟩
    rw [before, noted, requests_settling]

end Tasks

section Run

variable {schedule : Schedule} {program : List Statement} {handle : Handle} {store : Store}

theorem requested_stands {earlier late : List (Issued × Event)} {each : Issued × Event}
    (split : requested schedule program handle store = earlier ++ each :: late) :
    StandsAfter store (earlier.map Prod.snd)
      (run schedule program handle store).journal.events each := by
  have ends := run_ends schedule program handle store
  generalize run schedule program handle store = done at ends ⊢
  cases ends with
  | unready cause state =>
    rw [requested_of_error schedule (begun_of_unready state)] at split
    cases earlier <;> cases split
  | idle connection ready nothing =>
    rw [requested_of_nothing schedule nothing] at split
    cases earlier <;> cases split
  | abandoned connection ready something cause later failed =>
    rw [requested_of_error schedule failed] at split
    cases earlier <;> cases split
  | finished connection ready something transaction later began =>
    have options := begun_options program handle store
    have replayed := begun_replayed program handle store
    rw [began] at options replayed
    rw [requested_of_ok schedule began, ← options] at split
    obtain ⟨past, future, events, before, spares⟩ := runTasks_stands
      (later.2.note ((sorted program handle store).1.map fun _ => .moved .statementIssued)) split
      (Journal.replay_note replayed (moves_silent _ _))
    obtain ⟨more, finishes⟩ := committed_events schedule program handle store transaction later
      ((committed schedule program handle store transaction later).1.mapError .transactionFailed)
    refine ⟨past, future ++ more, ?_, ?_, ?_⟩
    · rw [finishes, carried, events, List.append_assoc, List.cons_append]
    · rw [before, issued_requests began, List.nil_append]
    · rw [settlements_ended, settlements_committed]
      exact spares

theorem ended_replayed {journal : Journal} {result : Except Failure Unit}
    (replayed : journal.store = Event.replay store journal.events) :
    (ended handle journal result).journal.store =
      Event.replay store (ended handle journal result).journal.events := by
  rw [ended_store, ended_events]
  refine Journal.replay_note replayed ?_
  cases result <;> simp [Event.ending, Event.isExchange]

variable (schedule program handle store)

/-- A run leaves the store as its events do, one after the other. -/
theorem run_replayed : (run schedule program handle store).journal.store =
    Event.replay store (run schedule program handle store).journal.events := by
  have ends := run_ends schedule program handle store
  generalize run schedule program handle store = done at ends ⊢
  cases ends with
  | unready cause state => exact ended_replayed (awaited_replayed handle store)
  | idle connection ready nothing =>
    refine ended_replayed (Journal.replay_note (prepared_replayed program handle store) ?_)
    exact List.forall_mem_singleton.mpr rfl
  | abandoned connection ready something cause later failed =>
    have replayed := begun_replayed program handle store
    rw [failed] at replayed
    refine ended_replayed (Journal.replay_note replayed ?_)
    exact List.forall_mem_cons.mpr ⟨rfl, abandoned_silent cause _⟩
  | finished connection ready something transaction later began =>
    exact ended_replayed (Journal.replay_send (Journal.replay_note
      (carried_tracks schedule began).replayed (List.forall_mem_singleton.mpr rfl)) _)

/-- The requests that a run makes for a statement leave the databases alone: each has its
place among the events, after those that were made before it, and finds the databases as it
leaves them. -/
def Harmless (issued : Issued) : Prop :=
  ∀ earlier event late,
    requested schedule program handle store = earlier ++ (issued, event) :: late →
    ∃ past future, (run schedule program handle store).journal.events = past ++ event :: future ∧
      Event.requests past = earlier.map Prod.snd ∧
      (event.after (Event.replay store past)).databases = (Event.replay store past).databases

variable {schedule program handle store}

theorem failed_harmless {issued : Issued} {cause : Failure}
    (failed : (issued, .error cause) ∈
      Event.settlements (run schedule program handle store).journal.events) :
    Harmless schedule program handle store issued := by
  intro earlier event late split
  obtain ⟨past, future, events, before, spared | ⟨result, finished⟩⟩ := requested_stands split
  · exact ⟨past, future, events, before, spared⟩
  -- It would have settled twice.
  · have distinct := (run_settles schedule program handle store).distinct.of_map
    cases List.inj_on_of_nodup_map distinct finished failed rfl

end Run

end Transaction

/-- A command that fails leaves the store as it was, up to the fault that it reports and
the transaction that it was to commit. A statement that fails has therefore changed no
database: none of the requests that the run makes for it has. -/
theorem Store.failures_change_nothing (store : Store) :
    (∀ command cause, command.error? (store.step command).1 = some cause →
      store.Unharmed command cause (store.step command).2) ∧
    (∀ schedule program handle issued cause,
      (issued, .error cause) ∈
        Event.settlements (Transaction.run schedule program handle store).journal.events →
      Transaction.Harmless schedule program handle store issued ∧
      (issued.statement.planned handle.options.mode = .error cause ∨
      (∀ event ∈ (Transaction.run schedule program handle store).journal.events,
        event.isRequest = false) ∨
      ∃ transaction later plan turns,
        Transaction.begun program handle store = (.ok transaction, later) ∧
        issued.statement.planned handle.options.mode = .ok plan ∧
        Trail transaction store (.next plan.call)
          (Transaction.run schedule program handle store).journal.events turns
          (.done (.error cause)) ∧
        ∀ turn ∈ turns, (turn.after transaction).databases = turn.before.databases)) ∧
    ∀ schedule program handle,
      Event.requests (Transaction.run schedule program handle store).journal.events =
        (Transaction.requested schedule program handle store).map Prod.snd ∧
      (Transaction.run schedule program handle store).journal.store =
        Event.replay store (Transaction.run schedule program handle store).journal.events := by
  refine ⟨?_, ?_, ?_⟩
  · intro command cause failed
    exact step_unharmed failed
  · intro schedule program handle issued cause failed
    exact ⟨Transaction.failed_harmless failed, Transaction.run_failed schedule failed⟩
  · intro schedule program handle
    exact ⟨Transaction.run_requests schedule,
      Transaction.run_replayed schedule program handle store⟩

namespace Transaction

/-- An update whose write is made to fail, and an insertion. -/
def unwritten : List Statement :=
  [setting "a" 1, ⟨"INSERT INTO t (b) VALUES (?)", [.integer 2], none, none⟩]

/-- The update reads, the insertion adds its record and the write fails: both requests of the
update leave the databases as they find them. -/
theorem unwritten_update_changes_nothing :
    let handle := Handle.new (.named "notes")
    let store := Store.empty.inject (.request .put)
    let events := (run .interleaved unwritten handle store).journal.events
    store.Unharmed (.openDatabase "notes" (some 0) fun _ _ => .finish) .versionNotPositive
      (store.step (.openDatabase "notes" (some 0) fun _ _ => .finish)).2 ∧
    (requested .interleaved unwritten handle store).map (fun each => each.1.place) =
      [.top 0, .top 1, .top 0] ∧
    ∃ issued cause transaction, ∃ plan : Plan, ∃ turns,
      issued.place = .top 0 ∧ (issued, .error cause) ∈ Event.settlements events ∧
      Harmless .interleaved unwritten handle store issued ∧
      Trail transaction store (.next plan.call) events turns (.done (.error cause)) ∧
      ∀ turn ∈ turns, (turn.after transaction).databases = turn.before.databases := by
  intro handle store events
  obtain ⟨commands, statements, -⟩ := store.failures_change_nothing
  have fails : (Event.settlements events).any (fun settlement =>
      !settlement.2.isOk && settlement.1.place = .top 0 &&
        (settlement.1.statement.planned .perStatement).isOk) = true := by
    decide +kernel
  have asks : events.any Event.isRequest = true := by decide +kernel
  refine ⟨commands _ _ rfl, by decide +kernel, ?_⟩
  obtain ⟨⟨issued, outcome⟩, member, all⟩ := List.any_eq_true.mp fails
  obtain ⟨both, planned⟩ := Bool.and_eq_true_iff.mp all
  obtain ⟨bad, first⟩ := Bool.and_eq_true_iff.mp both
  cases outcome with
  | ok result => cases bad
  | error cause =>
    obtain ⟨harmless,
      refused | silent | ⟨transaction, later, plan, turns, -, -, trail, unharmed⟩⟩ :=
      statements .interleaved unwritten handle issued cause member
    · rw [show issued.statement.planned .perStatement = .error cause from refused] at planned
      cases planned
    · obtain ⟨event, inside, request⟩ := List.any_eq_true.mp asks
      cases (silent event inside).symm.trans request
    · exact ⟨issued, cause, transaction, plan, turns, of_decide_eq_true first, member, harmless,
        trail, unharmed⟩

end Transaction

end RecordSql
