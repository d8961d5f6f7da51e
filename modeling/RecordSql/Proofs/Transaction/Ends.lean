import RecordSql.Proofs.Handle.Sends
import RecordSql.Proofs.Store.Steps
import RecordSql.Transaction.Run

/-!
How a run of a transaction can end, and the induction over its turns. A run has
four endings: the handle was not ready, nothing was left to carry out, the
transaction of the store did not begin, or its commit decided.
-/

namespace RecordSql

/-- How the end of a run is told. -/
def Event.ending : Except Failure Unit → Event
  | .ok () => .completed
  | .error cause => .failed cause

namespace Transaction

variable (schedule : Schedule) (program : List Statement) (handle : Handle) (store : Store)

def awaited : Handle × Journal := handle.takeNumber.2.settle (.start store)

/-- The statements of a program that can be carried out, and what happens to the
others. -/
def sorted : List Pending × List Event :=
  triage (awaited handle store).1.options.mode (issuedAtSetup program)

/-- The journal when the setup has issued its statements. -/
def setUp : Journal :=
  ((((awaited handle store).2.note [.setup handle.takeNumber.1]).queue
    (issuedAtSetup program)).move .setupReturned)

/-- The journal when the statements that cannot be planned have settled. -/
def prepared : Journal := (setUp program handle store).note (sorted program handle store).2

/-- The collections that the statements to be carried out work on. -/
def named : List String :=
  (sorted program handle store).1.map fun each => each.plan.collection

def begun : Except Failure Nat × Handle × Journal :=
  (awaited handle store).1.beginTransaction (named program handle store)
    (prepared program handle store)

/-- The journal when every task has had its turns. -/
def carried (transaction : Nat) (begun : Handle × Journal) : Journal :=
  runTasks schedule begun.1.options.mode transaction
    ((sorted program handle store).1.map Pending.task)
    (begun.2.note ((sorted program handle store).1.map fun _ => .moved .statementIssued))

/-- What is sent last: the commit, after the queue was closed. -/
def committed (transaction : Nat) (begun : Handle × Journal) : Except StoreError Unit × Journal :=
  ((carried schedule program handle store transaction begun).note [.closed]).send
    (.commit transaction)

theorem awaited_connects : handle.Connects (.start store) (awaited handle store) :=
  ⟨(handle.takeNumber.2.settle_connects (.start store)).options,
    (handle.takeNumber.2.settle_connects (.start store)).sends⟩

theorem awaited_continues : handle.Continues (.start store) (awaited handle store) :=
  (awaited_connects handle store).continues

theorem begun_continues :
    (awaited handle store).1.Continues (prepared program handle store)
      (begun program handle store).2 :=
  (awaited handle store).1.beginTransaction_continues (named program handle store)
    (prepared program handle store)

theorem awaited_options : (awaited handle store).1.options = handle.options :=
  (awaited_continues handle store).options

theorem begun_options : (begun program handle store).2.1.options = handle.options :=
  (begun_continues program handle store).options.trans (awaited_options handle store)

theorem begun_events : ∃ exchanges : List Exchange, (begun program handle store).2.2.events =
    (prepared program handle store).events ++ exchanges.map .exchanged :=
  (begun_continues program handle store).sends.events

theorem awaited_calm (calm : store.faults = []) : (awaited handle store).2.store.faults = [] :=
  (awaited_continues handle store).sends.keeps (fun store => store.faults = [])
    (fun _ _ allowed calm => Store.step_calm calm allowed.quiet) calm

theorem begun_calm (calm : store.faults = []) :
    (begun program handle store).2.2.store.faults = [] :=
  (begun_continues program handle store).sends.keeps (fun store => store.faults = [])
    (fun _ _ allowed calm => Store.step_calm calm allowed.quiet) (awaited_calm handle store calm)

/-- A run is brought to its end. -/
def ended (handle : Handle) (journal : Journal) : Except Failure Unit → Run
  | .ok () => complete handle journal
  | .error cause => fail handle journal cause

def lastStep : Except Failure Unit → TransactionEvent
  | .ok () => .completed
  | .error cause => .errored cause

theorem ended_handle (handle : Handle) (journal : Journal) (result : Except Failure Unit) :
    (ended handle journal result).handle = handle := by
  cases result <;> rfl

theorem ended_store (handle : Handle) (journal : Journal) (result : Except Failure Unit) :
    (ended handle journal result).journal.store = journal.store := by
  cases result <;> rfl

theorem ended_result (handle : Handle) (journal : Journal) (result : Except Failure Unit) :
    (ended handle journal result).result = result := by
  cases result <;> rfl

theorem ended_events (handle : Handle) (journal : Journal) (result : Except Failure Unit) :
    (ended handle journal result).journal.events =
      journal.events ++ [.moved (lastStep result), .ending result] := by
  cases result <;> exact List.append_assoc _ _ _

theorem settled_of_ended {handle : Handle} {journal : Journal} {result : Except Failure Unit}
    {issued : Issued} {outcome : Outcome}
    (member : .settled issued outcome ∈ (ended handle journal result).journal.events) :
    .settled issued outcome ∈ journal.events := by
  rw [ended_events] at member
  rcases List.mem_append.mp member with before | last
  · exact before
  · rcases List.mem_cons.mp last with moved | told
    · cases moved
    · cases result <;> cases List.mem_singleton.mp told

inductive RunEnds : Run → Prop where
  | unready (cause : Failure) (state : (awaited handle store).1.connection = .error cause) :
      RunEnds (ended (awaited handle store).1 (awaited handle store).2 (.error cause))
  | idle (connection : Connection) (ready : (awaited handle store).1.connection = .ok connection)
      (nothing : (sorted program handle store).1 = []) :
      RunEnds (ended (awaited handle store).1
        ((prepared program handle store).note [.closed]) (.ok ()))
  | abandoned (connection : Connection)
      (ready : (awaited handle store).1.connection = .ok connection)
      (something : (sorted program handle store).1 ≠ []) (cause : Failure)
      (later : Handle × Journal) (failed : begun program handle store = (.error cause, later)) :
      RunEnds (ended later.1
        (later.2.note (.closed :: (sorted program handle store).1.flatMap fun each =>
          Transaction.abandoned cause each.issued)) (.error cause))
  | finished (connection : Connection)
      (ready : (awaited handle store).1.connection = .ok connection)
      (something : (sorted program handle store).1 ≠ []) (transaction : Nat)
      (later : Handle × Journal) (began : begun program handle store = (.ok transaction, later)) :
      RunEnds (ended later.1 (committed schedule program handle store transaction later).2
        ((committed schedule program handle store transaction later).1.mapError
          .transactionFailed))

/-- Once something can be carried out, a run is as its transaction of the store
lets it be. -/
theorem carryOut_ends (connection : Connection)
    (ready : (awaited handle store).1.connection = .ok connection)
    (something : (sorted program handle store).1 ≠ []) :
    RunEnds schedule program handle store
      (carryOut schedule (awaited handle store).1 (sorted program handle store).1
        (prepared program handle store)) := by
  rw [carryOut]
  cases began : begun program handle store with
  | mk result later =>
    have outcome := began
    simp only [begun, named] at outcome
    rw [outcome]
    cases result with
    | error cause => exact .abandoned connection ready something cause later began
    | ok transaction =>
      have ends : RunEnds schedule program handle store _ :=
        .finished connection ready something transaction later began
      cases reply : (committed schedule program handle store transaction later).1 with
      | ok value =>
        rw [reply] at ends
        simp only [committed, carried] at reply
        dsimp only
        rw [reply]
        exact ends
      | error cause =>
        rw [reply] at ends
        simp only [committed, carried] at reply
        dsimp only
        rw [reply]
        exact ends

theorem run_ends :
    RunEnds schedule program handle store (run schedule program handle store) := by
  simp only [run]
  cases ready : (awaited handle store).1.connection with
  | error cause =>
    have state := ready
    simp only [awaited] at ready
    simp only [ready]
    exact .unready cause state
  | ok connection =>
    have state := ready
    simp only [awaited] at ready
    simp only [ready]
    change RunEnds schedule program handle store
      (runSetup schedule program handle.takeNumber.1 (awaited handle store).1
        (awaited handle store).2)
    by_cases nothing : (sorted program handle store).1 = []
    · have ends : RunEnds schedule program handle store _ := .idle connection state nothing
      rw [runSetup]
      simp only [sorted] at nothing
      simp only [nothing, List.isEmpty_nil, ↓reduceIte]
      exact ends
    · have same : runSetup schedule program handle.takeNumber.1 (awaited handle store).1
          (awaited handle store).2 =
          carryOut schedule (awaited handle store).1 (sorted program handle store).1
            (prepared program handle store) := by
        simp only [runSetup]
        exact if_neg (by simpa [sorted] using nothing)
      rw [same]
      exact carryOut_ends schedule program handle store connection state nothing

section Turns

variable {schedule : Schedule} {mode : CollectionMode} {transaction : Nat}

/-- What every turn keeps holds when no task is left. -/
theorem runTasks_keeps (Holds : List Task → Journal → Prop)
    (asks : ∀ issued call rest journal, Holds (⟨issued, .next call⟩ :: rest) journal →
      Holds (schedule.requeue ⟨issued, call.resume
          (journal.send (.request transaction call.collection call.request)).1⟩ rest)
        (journal.send (.request transaction call.collection call.request)).2)
    (settles : ∀ issued outcome rest journal,
      Holds (⟨issued, .done outcome⟩ :: rest) journal →
      Holds (rest ++ (issued.followers outcome).map (Task.start mode))
        ((((journal.settle issued outcome).queue (issued.followers outcome)).move
          .statementSettled).note
          ((issued.followers outcome).map fun _ => .moved .statementIssued)))
    (tasks : List Task) (journal : Journal) (initially : Holds tasks journal) :
    Holds [] (runTasks schedule mode transaction tasks journal) := by
  fun_induction runTasks schedule mode transaction tasks journal with
  | case1 journal => exact initially
  | case2 journal issued call rest reply later sent ih =>
    apply ih
    have kept := asks issued call rest journal initially
    rwa [sent] at kept
  | case3 journal issued outcome rest followers settled later ih =>
    exact ih (settles issued outcome rest journal initially)

end Turns

end Transaction

end RecordSql
