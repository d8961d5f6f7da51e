import RecordSql.Handle.Basic
import RecordSql.Statement.Call

/-!
Running a transaction on a handle.

Once the handle is ready the setup issues its statements. Those that cannot be
planned settle first, and so do those that their callbacks issue. If any can be
carried out, a transaction of the store begins, each statement becomes a task,
and the tasks take turns from a queue. A turn makes one request or settles a
statement; what a callback issues joins the back of the queue. When no task is
left the queue is closed and the transaction of the store is committed.

The schedules differ in one thing: where a task goes that has made a request.
Under the serial one it takes the next turn as well, under the interleaved one
it waits until all others have had theirs.
-/

namespace RecordSql

inductive Schedule where
  | serial
  | interleaved
deriving DecidableEq

/-- A statement on its way through the queue. -/
structure Task where
  issued : Issued
  progress : Progress

/-- A statement that can be carried out. -/
structure Pending where
  issued : Issued
  plan : Plan

/-- How a run left the handle, what it did and what it answered. -/
structure Run where
  handle : Handle
  journal : Journal
  result : Except Failure Unit

/-- The queue after a task has made a request. -/
def Schedule.requeue (schedule : Schedule) (task : Task) (rest : List Task) : List Task :=
  match schedule with
  | .serial => task :: rest
  | .interleaved => rest ++ [task]

namespace Task

/-- A statement that cannot be planned takes one turn to settle. -/
def start (mode : CollectionMode) (issued : Issued) : Task where
  issued := issued
  progress :=
    match issued.statement.planned mode with
    | .ok plan => .next plan.call
    | .error cause => .done (.error cause)

/-- A bound on the turns of a task and all that may follow it. -/
def turns (task : Task) : Nat :=
  task.progress.requests + (task.issued.statement.turns - 2)

def totalTurns : List Task → Nat
  | [] => 0
  | task :: rest => task.turns + totalTurns rest

end Task

def Pending.task (pending : Pending) : Task := ⟨pending.issued, .next pending.plan.call⟩

theorem Statement.three_le_turns (statement : Statement) : 3 ≤ statement.turns := by
  obtain ⟨sql, params, onSuccess, onFailure⟩ := statement
  simp only [turns]
  omega

namespace Task

theorem totalTurns_append (left right : List Task) :
    totalTurns (left ++ right) = totalTurns left + totalTurns right := by
  induction left with
  | nil => simp [totalTurns]
  | cons task rest ih => simp [totalTurns, ih, Nat.add_assoc]

theorem totalTurns_requeue (schedule : Schedule) (task : Task) (rest : List Task) :
    totalTurns (schedule.requeue task rest) = task.turns + totalTurns rest := by
  cases schedule with
  | serial => rfl
  | interleaved => simp [Schedule.requeue, totalTurns_append, totalTurns, Nat.add_comm]

theorem turns_start_le (mode : CollectionMode) (issued : Issued) :
    (start mode issued).turns ≤ issued.statement.turns := by
  have least := issued.statement.three_le_turns
  simp only [start, turns]
  cases issued.statement.planned mode with
  | error cause =>
    simp only [Progress.requests]
    omega
  | ok plan =>
    have few := plan.call.requests_le_two
    simp only [Progress.requests]
    omega

theorem totalTurns_start_le (mode : CollectionMode) (issued : List Issued) :
    totalTurns (issued.map (start mode)) ≤ Issued.turns issued := by
  induction issued with
  | nil => exact Nat.le_refl _
  | cons first rest ih =>
    have head := turns_start_le mode first
    simp only [totalTurns, Issued.turns, List.map_cons]
    omega

end Task

namespace Transaction

/-- Splits issued statements into those that can be carried out and what
happens to the others: they settle in order, and what their callbacks issue
comes after all that is waiting. -/
def triage (mode : CollectionMode) (waiting : List Issued) : List Pending × List Event :=
  match waiting with
  | [] => ([], [])
  | issued :: rest =>
      match issued.statement.planned mode with
      | .ok plan =>
          let (pending, events) := triage mode rest
          (⟨issued, plan⟩ :: pending, events)
      | .error cause =>
          let followers := issued.followers (.error cause)
          let (pending, events) := triage mode (rest ++ followers)
          (pending, .settled issued (.error cause) ::
            followers.map (fun each => .queued each.place) ++ events)
termination_by Issued.turns waiting
decreasing_by
  · have least := issued.statement.three_le_turns
    simp only [Issued.turns]
    omega
  · have fewer := issued.turns_followers_lt (.error cause)
    rw [Issued.turns_append]
    simp only [Issued.turns]
    omega

def runTasks (schedule : Schedule) (mode : CollectionMode) (transaction : Nat)
    (tasks : List Task) (journal : Journal) : Journal :=
  match tasks with
  | [] => journal
  | ⟨issued, .next call⟩ :: rest =>
      let (reply, journal) :=
        journal.send (.request transaction call.collection call.request)
      runTasks schedule mode transaction
        (schedule.requeue ⟨issued, call.resume reply⟩ rest) journal
  | ⟨issued, .done outcome⟩ :: rest =>
      let followers := issued.followers outcome
      let journal := (journal.settle issued outcome).queue followers
      let journal := (journal.move .statementSettled).note
        (followers.map fun _ => .moved .statementIssued)
      runTasks schedule mode transaction (rest ++ followers.map (Task.start mode)) journal
termination_by Task.totalTurns tasks
decreasing_by
  · have fewer := call.requests_resume_lt reply
    rw [Task.totalTurns_requeue]
    simp only [Task.totalTurns, Task.turns, Progress.requests_next]
    omega
  · have fewer := issued.turns_followers_lt outcome
    have started := Task.totalTurns_start_le mode (issued.followers outcome)
    have least := issued.statement.three_le_turns
    rw [Task.totalTurns_append]
    simp only [Task.totalTurns, Task.turns, Progress.requests_done]
    omega

mutual

/-- What happens to a statement that is issued too late, and to whatever its
callback then issues: each settles at once. -/
def refusal (place : Place) : Statement → List Event
  | ⟨sql, params, onSuccess, onFailure⟩ =>
      .settled ⟨place, ⟨sql, params, onSuccess, onFailure⟩⟩ (.error .transactionClosed) ::
        refusalAfter place onFailure

def refusalAfter (place : Place) : Option (List Statement) → List Event
  | none => []
  | some statements => refusals (.afterFailure place) 0 statements

def refusals (placed : Nat → Place) (index : Nat) : List Statement → List Event
  | [] => []
  | statement :: rest => refusal (placed index) statement ++ refusals placed (index + 1) rest

end

/-- What happens to a statement that waits for a transaction of the store that
does not begin. -/
def abandoned (cause : Failure) (issued : Issued) : List Event :=
  .settled issued (.error cause) ::
    refusals (.afterFailure issued.place) 0 (issued.statement.onFailure.getD [])

def fail (handle : Handle) (journal : Journal) (cause : Failure) : Run where
  handle := handle
  journal := (journal.move (.errored cause)).note [.failed cause]
  result := .error cause

def complete (handle : Handle) (journal : Journal) : Run where
  handle := handle
  journal := (journal.move .completed).note [.completed]
  result := .ok ()

/-- Carries out statements in a transaction of the store and commits it. -/
def carryOut (schedule : Schedule) (handle : Handle) (pending : List Pending)
    (journal : Journal) : Run :=
  match handle.beginTransaction (pending.map fun each => each.plan.collection) journal with
  | (.error cause, handle, journal) =>
      fail handle (journal.note (.closed :: pending.flatMap fun each =>
        abandoned cause each.issued)) cause
  | (.ok transaction, handle, journal) =>
      let journal := journal.note (pending.map fun _ => .moved .statementIssued)
      let journal := runTasks schedule handle.options.mode transaction
        (pending.map Pending.task) journal
      let (reply, journal) := (journal.note [.closed]).send (.commit transaction)
      match reply with
      | .ok () => complete handle journal
      | .error cause => fail handle journal (.transactionFailed cause)

/-- Runs the setup and what it issues on a handle that is ready. -/
def runSetup (schedule : Schedule) (program : List Statement) (number : UInt64)
    (handle : Handle) (journal : Journal) : Run :=
  let issued := issuedAtSetup program
  let journal := ((journal.note [.setup number]).queue issued).move .setupReturned
  let (pending, events) := triage handle.options.mode issued
  let journal := journal.note events
  if pending.isEmpty then complete handle (journal.note [.closed])
  else carryOut schedule handle pending journal

/-- Runs a transaction. A handle that is errored fails it before its setup. -/
def run (schedule : Schedule) (program : List Statement) (handle : Handle)
    (store : Store) : Run :=
  let (number, handle) := handle.takeNumber
  let (handle, journal) := handle.settle (.start store)
  match handle.connection with
  | .error cause => fail handle journal cause
  | .ok _ => runSetup schedule program number handle journal

/-- What happens to statements that are issued after their transaction has
finished. -/
def late (program : List Statement) : List Event := refusals .top 0 program

end Transaction

end RecordSql
