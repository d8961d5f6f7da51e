import RecordSql.Proofs.Handle.Conduct
import RecordSql.Proofs.Transaction.Coverage

/-!
A run of a transaction as steps of its handle. Apart from what the handle itself
does, a run makes requests, commits and notes what its callbacks are told.
-/

namespace RecordSql

namespace Transaction

open Handle (Steps)

theorem note_steps {start : Handle × Journal} {handle : Handle} {journal : Journal}
    (steps : Steps start (handle, journal)) (events : List Event)
    (silent : ∀ event ∈ events, event.isExchange = false) :
    Steps start (handle, journal.note events) := steps.tail (.noted silent)

theorem queue_silent (issued : List Issued) :
    ∀ event ∈ issued.map (fun each => Event.queued each.place), event.isExchange = false := by
  intro event member
  obtain ⟨each, -, rfl⟩ := List.mem_map.mp member
  rfl

theorem moves_silent {Item : Type} (items : List Item) (step : TransactionEvent) :
    ∀ event ∈ items.map (fun _ => Event.moved step), event.isExchange = false := by
  intro event member
  obtain ⟨each, -, rfl⟩ := List.mem_map.mp member
  rfl

/-- What happens when a statement settles. -/
def settling (issued : Issued) (outcome : Outcome) : List Event :=
  .settled issued outcome :: (issued.followers outcome).map (fun each => .queued each.place) ++
    .moved .statementSettled ::
      (issued.followers outcome).map fun _ => .moved .statementIssued

theorem settle_eq_note (issued : Issued) (outcome : Outcome) (journal : Journal) :
    (((journal.settle issued outcome).queue (issued.followers outcome)).move
        .statementSettled).note
      ((issued.followers outcome).map fun _ => .moved .statementIssued) =
      journal.note (settling issued outcome) := by
  simp [Journal.settle, Journal.queue, Journal.move, Journal.note, settling]

theorem settling_silent (issued : Issued) (outcome : Outcome) :
    ∀ event ∈ settling issued outcome, event.isExchange = false := by
  intro event member
  rcases List.mem_append.mp member with told | moved
  · rcases List.mem_cons.mp told with rfl | queued
    · rfl
    · exact queue_silent _ event queued
  · rcases List.mem_cons.mp moved with rfl | issues
    · rfl
    · exact moves_silent _ _ event issues

theorem settlements_settling (issued : Issued) (outcome : Outcome) :
    Event.settlements (settling issued outcome) = [(issued, outcome)] := by
  have moved : Event.settlements (.moved .statementSettled ::
      (issued.followers outcome).map fun _ => .moved .statementIssued) = [] := by
    apply Event.settlements_inner
    intro event member
    rcases List.mem_cons.mp member with rfl | issues
    · rfl
    · obtain ⟨each, -, rfl⟩ := List.mem_map.mp issues
      rfl
  rw [settling, Event.settlements_append, moved, List.append_nil]
  exact congrArg ((issued, outcome) :: ·) (Event.settlements_queued _)

theorem triage_silent (mode : CollectionMode) (waiting : List Issued) :
    ∀ event ∈ (triage mode waiting).2, event.isExchange = false := by
  fun_induction triage mode waiting
  case case1 =>
    rintro event ⟨⟩
  case case2 first rest plan valid pending later same ih =>
    rwa [same] at ih
  case case3 first rest cause invalid followers pending later same ih =>
    rw [same] at ih
    intro event member
    rcases List.mem_cons.mp member with rfl | further
    · rfl
    · rcases List.mem_append.mp further with queued | after
      · exact queue_silent followers event queued
      · exact ih event after

theorem abandoned_silent (cause : Failure) (waiting : List Pending) :
    ∀ event ∈ waiting.flatMap (fun each => abandoned cause each.issued),
      event.isExchange = false := by
  intro event member
  have told := (abandoned_settle cause waiting).isSettled event member
  cases event with
  | exchanged exchange => cases told
  | _ => rfl

variable (schedule : Schedule) (program : List Statement) (handle : Handle) (store : Store)

theorem awaited_steps : Steps (handle, .start store) (awaited handle store) :=
  .head .numbered (handle.takeNumber.2.settle_steps (.start store))

theorem prepared_steps :
    Steps (handle, .start store) ((awaited handle store).1, prepared program handle store) := by
  have started := note_steps (awaited_steps handle store) [.setup handle.takeNumber.1]
    (by simp [Event.isExchange])
  have issued := note_steps started _ (queue_silent (issuedAtSetup program))
  have returned := note_steps issued [.moved .setupReturned] (by simp [Event.isExchange])
  exact note_steps returned _ (triage_silent _ _)

theorem begun_steps : Steps (handle, .start store) (begun program handle store).2 :=
  (prepared_steps program handle store).trans
    ((awaited handle store).1.beginTransaction_steps (named program handle store)
      (prepared program handle store))

variable {handle} {store}

theorem runTasks_steps {start : Handle × Journal} {later : Handle} {journal : Journal}
    (schedule : Schedule) (mode : CollectionMode) (transaction : Nat) (tasks : List Task)
    (steps : Steps start (later, journal)) :
    Steps start (later, runTasks schedule mode transaction tasks journal) := by
  refine runTasks_keeps (fun _ journal => Steps start (later, journal)) ?_ ?_ tasks journal steps
  · intro issued call rest journal held
    exact held.tail (.used trivial)
  · intro issued outcome rest journal held
    rw [settle_eq_note]
    exact note_steps held _ (settling_silent issued outcome)

theorem ended_steps {start : Handle × Journal} {later : Handle} {journal : Journal}
    (steps : Steps start (later, journal)) (result : Except Failure Unit) :
    Steps start ((ended later journal result).handle, (ended later journal result).journal) := by
  cases result with
  | ok value =>
    exact note_steps (note_steps steps [.moved .completed] (by simp [Event.isExchange]))
      [.completed] (by simp [Event.isExchange])
  | error cause =>
    exact note_steps (note_steps steps [.moved (.errored cause)] (by simp [Event.isExchange]))
      [.failed cause] (by simp [Event.isExchange])

theorem run_steps : Steps (handle, .start store)
    ((run schedule program handle store).handle, (run schedule program handle store).journal) := by
  have beginning := begun_steps program handle store
  generalize ended : run schedule program handle store = done
  have ends := run_ends schedule program handle store
  rw [ended] at ends
  cases ends with
  | unready cause state => exact ended_steps (awaited_steps handle store) _
  | idle connection ready nothing =>
    exact ended_steps (note_steps (prepared_steps program handle store) [.closed]
      (by simp [Event.isExchange])) _
  | abandoned connection ready something cause later failed =>
    rw [failed] at beginning
    refine ended_steps (note_steps beginning _ ?_) _
    intro event member
    rcases List.mem_cons.mp member with rfl | settled
    · rfl
    · exact abandoned_silent cause _ event settled
  | finished connection ready something transaction later began =>
    rw [began] at beginning
    have issued := note_steps beginning _
      (moves_silent (sorted program handle store).1 .statementIssued)
    have carried := runTasks_steps schedule later.1.options.mode transaction
      ((sorted program handle store).1.map Pending.task) issued
    have closed := note_steps carried [.closed] (by simp [Event.isExchange])
    exact ended_steps (closed.tail (.used (show (Command.commit transaction).IsUse from trivial))) _

end Transaction

end RecordSql
