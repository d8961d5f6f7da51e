import RecordSql.Proofs.Session.Growth

/-!
Handles that are errored. Nothing that can happen in a session, whoever does it, changes the
state of such a handle, and no transaction on it gets as far as its setup: it fails with the
error of the handle, and the store hears nothing of it.
-/

namespace RecordSql

theorem HandleState.after_errored (cause : Failure) (event : HandleEvent) :
    (errored cause).after event = .errored cause := rfl

/-- No event leads out of an error. -/
theorem HandleState.afterAll_errored (cause : Failure) (events : List HandleEvent) :
    (errored cause).afterAll events = .errored cause := by
  induction events with
  | nil => rfl
  | cons event rest ih => exact ih

namespace Handle

/-- What is left of a handle that is errored. Of a transaction on it there is only its failure:
no setup, no statement and no exchange with the store. -/
structure Inert (handle : Handle) (cause : Failure) : Prop where
  keeps : ∀ events : List HandleEvent, (events.foldl move handle).state = .errored cause
  waits : ∀ journal, handle.settle journal = (handle, journal)
  unconnected : handle.connection = .error cause
  refuses : ∀ named journal,
    handle.beginTransaction named journal = (.error cause, handle, journal)
  fails : ∀ schedule program store, Transaction.run schedule program handle store =
    { handle := handle.takeNumber.2
      journal := ⟨store, [.moved (.errored cause), .failed cause]⟩
      result := .error cause }
  /-- So does a transaction whose statements have been issued before, but have not begun. -/
  abandons : ∀ schedule pending journal, Transaction.carryOut schedule handle pending journal =
    { handle := handle
      journal := journal.note ((.closed :: pending.flatMap fun each =>
        Transaction.abandoned cause each.issued) ++ [.moved (.errored cause), .failed cause])
      result := .error cause }

variable {handle : Handle} {cause : Failure}

theorem state_foldl_move (handle : Handle) (events : List HandleEvent) :
    (events.foldl move handle).state = handle.state.afterAll events := by
  induction events generalizing handle with
  | nil => rfl
  | cons event rest ih => exact ih (handle.move event)

theorem settle_errored (errored : handle.state = .errored cause) (journal : Journal) :
    handle.settle journal = (handle, journal) := by
  simp [settle, errored, HandleState.isSettled]

theorem connection_errored (errored : handle.state = .errored cause) :
    handle.connection = .error cause := by
  simp [connection, errored]

theorem beginTransaction_errored (errored : handle.state = .errored cause) (named : List String)
    (journal : Journal) :
    handle.beginTransaction named journal = (.error cause, handle, journal) := by
  simp [beginTransaction, cover, connection_errored errored]

theorem run_errored (errored : handle.state = .errored cause) (schedule : Schedule)
    (program : List Statement) (store : Store) :
    Transaction.run schedule program handle store =
      { handle := handle.takeNumber.2
        journal := ⟨store, [.moved (.errored cause), .failed cause]⟩
        result := .error cause } := by
  have numbered : handle.takeNumber.2.state = .errored cause := errored
  simp only [Transaction.run, settle_errored numbered, connection_errored numbered]
  rfl

theorem carryOut_errored (errored : handle.state = .errored cause) (schedule : Schedule)
    (pending : List Pending) (journal : Journal) :
    Transaction.carryOut schedule handle pending journal =
      { handle := handle
        journal := journal.note ((.closed :: pending.flatMap fun each =>
          Transaction.abandoned cause each.issued) ++ [.moved (.errored cause), .failed cause])
        result := .error cause } := by
  rw [Transaction.carryOut, beginTransaction_errored errored]
  simp [Transaction.fail, Journal.move, Journal.note]

theorem inert_of_errored (errored : handle.state = .errored cause) : handle.Inert cause where
  keeps := by
    intro events
    rw [state_foldl_move, errored, HandleState.afterAll_errored]
  waits := settle_errored errored
  unconnected := connection_errored errored
  refuses := beginTransaction_errored errored
  fails := run_errored errored
  abandons := carryOut_errored errored

end Handle

/-- A handle that works finds itself errored and stops before it has done anything. -/
theorem Act.work_errored (act : Act) {handle : Handle} {cause : Failure}
    (errored : handle.state = .errored cause) (store : Store) :
    (act.work handle store).1.state = .errored cause := by
  have inert := Handle.inert_of_errored errored
  cases act with
  | settles => simpa only [Act.work, inert.waits] using errored
  | begins named => simpa only [Act.work, inert.waits, inert.refuses] using errored
  | runs schedule program =>
    simp only [Act.work, inert.fails]
    exact errored
  | opens | sends => exact errored

namespace Session

/-- Anything that can be done to a session, sensible or not. -/
inductive Happening where
  | acts (act : Act)
  /-- Any command at all, also one that closes the connection of a handle. -/
  | sends (command : Command)
  | closes (identifier : HandleId)
  /-- An event that reaches a handle from wherever. -/
  | meets (identifier : HandleId) (event : HandleEvent)
  | installs (mode : CollectionMode)
  | configures (options : OpenRequest → Options)
  | provides (request : OpenRequest)

def undergo (session : Session) : Happening → Session
  | .acts act => session.perform act
  | .sends command => (session.send command).2
  | .closes identifier => (session.close? identifier).getD session
  | .meets identifier event =>
      match session.handle? identifier with
      | none => session
      | some handle => session.update identifier (handle.move event) session.store
  | .installs mode => (session.install mode).2
  | .configures options => session.setFactory options
  | .provides request => (session.openByName request).2

def undergoAll (session : Session) : List Happening → Session
  | [] => session
  | happening :: rest => (session.undergo happening).undergoAll rest

variable {session : Session} {identifier : HandleId} {handle : Handle} {cause : Failure}

theorem add_handle? (found : session.handle? identifier = some handle) (new : Handle) :
    (session.add new).2.handle? identifier = some handle :=
  (List.getElem?_append_left (List.getElem?_eq_some_iff.mp found).1).trans found

/-- What becomes of a handle when something happens: it works, an event reaches it, or it stays
as it is. -/
inductive Becomes (session : Session) (identifier : HandleId) (handle : Handle) :
    Happening → Handle → Prop
  | stays (happening : Happening) : Becomes session identifier handle happening handle
  | works {act : Act} (worker : act.worker? = some identifier) :
      Becomes session identifier handle (.acts act) (act.work handle session.store).1
  | moves (event : HandleEvent) :
      Becomes session identifier handle (.meets identifier event) (handle.move event)

theorem undergo_becomes (found : session.handle? identifier = some handle)
    (happening : Happening) : ∃ later,
      (session.undergo happening).handle? identifier = some later ∧
        Becomes session identifier handle happening later := by
  cases happening with
  | acts act =>
    simp only [undergo]
    by_cases worker : act.worker? = some identifier
    · rw [perform_worked worker found]
      exact ⟨_, update_handle?_self found, .works worker⟩
    · exact ⟨handle, perform_handle?_of_idle worker found, .stays _⟩
  | sends | installs | configures => exact ⟨handle, found, .stays _⟩
  | closes position =>
    simp only [undergo, close?]
    split <;> exact ⟨handle, found, .stays _⟩
  | meets position event =>
    simp only [undergo]
    by_cases same : position = identifier
    · subst same
      rw [found]
      exact ⟨_, update_handle?_self found, .moves event⟩
    · cases session.handle? position with
      | none => exact ⟨handle, found, .stays _⟩
      | some other =>
        exact ⟨handle, (update_handle?_of_ne (Ne.symm same)).trans found, .stays _⟩
  | provides request =>
    simp only [undergo, openByName]
    split
    · exact ⟨handle, found, .stays _⟩
    · split
      · exact ⟨handle, found, .stays _⟩
      · exact ⟨handle, add_handle? found _, .stays _⟩

/-- The handle stands where it stood and is errored as it was. -/
def Errored (session : Session) (identifier : HandleId) (cause : Failure) : Prop :=
  ∃ handle, session.handle? identifier = some handle ∧ handle.state = .errored cause

theorem Errored.undergo (errored : session.Errored identifier cause) (happening : Happening) :
    (session.undergo happening).Errored identifier cause := by
  obtain ⟨handle, found, state⟩ := errored
  obtain ⟨later, present, becomes⟩ := undergo_becomes found happening
  refine ⟨later, present, ?_⟩
  cases becomes with
  | stays => exact state
  | works => exact Act.work_errored _ state session.store
  | moves event => rw [Handle.move, state, HandleState.after_errored]

theorem Errored.undergoAll (happenings : List Happening) {session : Session}
    (errored : session.Errored identifier cause) :
    (session.undergoAll happenings).Errored identifier cause := by
  induction happenings generalizing session with
  | nil => exact errored
  | cons happening rest ih => exact ih (errored.undergo happening)

/-- A transaction on the handle is told the error, once, and nothing else happens: its setup
does not run, none of its statements settles, and the store hears nothing of it. -/
def Refuses (session : Session) (identifier : HandleId) (cause : Failure) : Prop :=
  ∀ schedule program, ∃ done,
    (session.run schedule program identifier).1 = some done ∧
      done.result = .error cause ∧
      done.journal.events = [.moved (.errored cause), .failed cause] ∧
      (session.run schedule program identifier).2.store = session.store

/-- An error is the end of a handle. Whatever happens later, its state stays as it is, and every
transaction on it is refused with that error. -/
theorem errored_handles_stay_inert (found : session.handle? identifier = some handle)
    (errored : handle.state = .errored cause) (happenings : List Happening) :
    ∃ later, (session.undergoAll happenings).handle? identifier = some later ∧
      later.state = .errored cause ∧ later.Inert cause ∧
      (session.undergoAll happenings).Refuses identifier cause := by
  obtain ⟨later, present, state⟩ :=
    Errored.undergoAll happenings ⟨handle, found, errored⟩
  have inert := Handle.inert_of_errored state
  refine ⟨later, present, state, inert, ?_⟩
  intro schedule program
  simp only [run, present, inert.fails]
  exact ⟨_, rfl, rfl, rfl, rfl⟩

/-- A transaction begins on a collection that is not there; the open that would create it is
made to fail, and so is the one that would fall back. -/
def stranding : List Act :=
  [.opens (.named "notes"), .settles 0,
    .sends (.inject .openDatabase) (Command.inject_spares .openDatabase),
    .sends (.inject .openDatabase) (Command.inject_spares .openDatabase), .begins ["t"] 0]

theorem stranded_handle_stays_inert :
    let cause := Failure.openFailed (.injected .openDatabase)
    let happenings : List Happening :=
      [.meets 0 .reopening, .sends (.close 0), .acts (.begins ["t"] 0)]
    ∃ later, ((empty.performAll stranding).undergoAll happenings).handle? 0 = some later ∧
      later.state = .errored cause ∧ later.Inert cause ∧
      ((empty.performAll stranding).undergoAll happenings).Refuses 0 cause :=
  errored_handles_stay_inert rfl rfl
    [.meets 0 .reopening, .sends (.close 0), .acts (.begins ["t"] 0)]

end Session

end RecordSql
