import RecordSql.Proofs.Handle.Holdings
import RecordSql.Proofs.Session.Service
import RecordSql.Proofs.Transaction.Conduct

/-!
Histories of a session. Handles are opened on any databases and worked with, and
other commands are sent to the store past them, except that nobody closes a
connection of somebody else. In every such history all handles stay in order.
-/

namespace RecordSql

open Handle (Apart Steps)

/-- What is done in a session. -/
inductive Act where
  | opens (options : Options)
  | settles (identifier : HandleId)
  | begins (named : List String) (identifier : HandleId)
  | runs (schedule : Schedule) (program : List Statement) (identifier : HandleId)
  | sends (command : Command) (spares : ∀ connection, command ≠ .close connection)

theorem Command.inject_spares (operation : Operation) :
    ∀ connection, Command.inject operation ≠ .close connection := by
  rintro connection ⟨⟩

namespace Act

def worker? : Act → Option HandleId
  | .settles identifier | .begins _ identifier | .runs _ _ identifier => some identifier
  | .opens _ | .sends _ _ => none

/-- What becomes of the handle that works, and all that happens meanwhile. -/
def work (act : Act) (handle : Handle) (store : Store) : Handle × Journal :=
  match act with
  | .settles _ => handle.settle (.start store)
  | .begins named _ =>
      let (handle, journal) := handle.settle (.start store)
      (handle.beginTransaction named journal).2
  | .runs schedule program _ =>
      let done := Transaction.run schedule program handle store
      (done.handle, done.journal)
  | .opens _ | .sends _ _ => (handle, .start store)

/-- What an act does with a handle that it need not wait for any longer. -/
def goesOn (act : Act) (number : UInt64) (settled : Handle × Journal) : Handle × Journal :=
  match act with
  | .settles _ | .opens _ | .sends _ _ => settled
  | .begins named _ => (settled.1.beginTransaction named settled.2).2
  | .runs schedule program _ =>
      let done := match settled.1.connection with
        | .error cause => Transaction.fail settled.1 settled.2 cause
        | .ok _ => Transaction.runSetup schedule program number settled.1 settled.2
      (done.handle, done.journal)

end Act

namespace Session

/-- Waits for a handle and begins a transaction of the store on it. -/
def begin (session : Session) (named : List String) (identifier : HandleId) : Session :=
  match session.handle? identifier with
  | none => session
  | some handle =>
      let (handle, journal) := handle.settle (.start session.store)
      let (_, handle, journal) := handle.beginTransaction named journal
      session.update identifier handle journal.store

def perform (session : Session) : Act → Session
  | .opens options => (session.add (.new options)).2
  | .settles identifier => session.settle identifier
  | .begins named identifier => session.begin named identifier
  | .runs schedule program identifier => (session.run schedule program identifier).2
  | .sends command _ => (session.send command).2

def performAll (session : Session) : List Act → Session
  | [] => session
  | act :: rest => (session.perform act).performAll rest

/-- The connections that a handle opens in an act. -/
def openedIn (session : Session) (identifier : HandleId) (act : Act) : List Nat :=
  if act.worker? = some identifier then
    match session.handle? identifier with
    | none => []
    | some handle => Event.opened (act.work handle session.store).2.events
  else []

/-- All connections that a handle opens in a history, in order. -/
def opened (session : Session) (identifier : HandleId) : List Act → List Nat
  | [] => []
  | act :: rest =>
      session.openedIn identifier act ++ (session.perform act).opened identifier rest

end Session

theorem Act.work_steps (act : Act) (handle : Handle) (store : Store) :
    Steps (handle, .start store) (act.work handle store) := by
  cases act with
  | settles => exact handle.settle_steps (.start store)
  | begins named identifier =>
    exact (handle.settle_steps (.start store)).trans
      ((handle.settle (.start store)).1.beginTransaction_steps named
        (handle.settle (.start store)).2)
  | runs schedule program => exact Transaction.run_steps schedule program
  | opens | sends => exact .refl

theorem Transaction.run_isSettled (schedule : Schedule) (program : List Statement)
    (handle : Handle) (store : Store) :
    (run schedule program handle store).handle.state.isSettled = true := by
  have awaits : (awaited handle store).1.state.isSettled = true :=
    handle.takeNumber.2.settle_isSettled (.start store)
  have begins := (awaited handle store).1.beginTransaction_isSettled awaits
    (named program handle store) (prepared program handle store)
  generalize ended : run schedule program handle store = done
  have ends := run_ends schedule program handle store
  rw [ended] at ends
  cases ends with
  | unready | idle => exact awaits
  | abandoned connection ready something cause later failed =>
    rw [← begun, failed] at begins
    exact begins
  | finished connection ready something transaction later began =>
    rw [← begun, began] at begins
    rw [ended_handle]
    exact begins

/-- Work on a handle never stops half way. -/
theorem Act.work_isSettled {act : Act} {identifier : HandleId}
    (worker : act.worker? = some identifier) (handle : Handle) (store : Store) :
    (act.work handle store).1.state.isSettled = true := by
  cases act with
  | settles => exact handle.settle_isSettled (.start store)
  | begins named =>
    exact Handle.beginTransaction_isSettled (handle.settle_isSettled (.start store)) named _
  | runs schedule program => exact Transaction.run_isSettled schedule program handle store
  | opens | sends => cases worker

namespace Session

variable {session : Session} {act : Act} {identifier : HandleId} {handle : Handle}

/-- An act of a handle replaces it and the store by what its work has made of them. -/
theorem perform_worked (worker : act.worker? = some identifier)
    (found : session.handle? identifier = some handle) :
    session.perform act = session.update identifier (act.work handle session.store).1
      (act.work handle session.store).2.store := by
  cases act with
  | settles | begins | runs =>
    cases worker
    simp only [perform, settle, begin, run, found]
    rfl
  | opens | sends => cases worker

theorem perform_unworked (worker : act.worker? = some identifier)
    (absent : session.handle? identifier = none) : session.perform act = session := by
  cases act with
  | settles | begins | runs =>
    cases worker
    simp only [perform, settle, begin, run, absent]
  | opens | sends => cases worker

theorem openedIn_worked (worker : act.worker? = some identifier)
    (found : session.handle? identifier = some handle) :
    session.openedIn identifier act = Event.opened (act.work handle session.store).2.events := by
  simp only [openedIn, worker, found, if_true]

theorem openedIn_other (idle : act.worker? ≠ some identifier) :
    session.openedIn identifier act = [] := if_neg idle

theorem openedIn_absent (absent : session.handle? identifier = none) :
    session.openedIn identifier act = [] := by
  simp only [openedIn, absent, ite_self]

/-- All handles of a session are in order, given the connections that each has
opened so far. -/
structure Tended (session : Session) (opened : HandleId → List Nat) : Prop where
  holds : ∀ identifier handle, session.handle? identifier = some handle →
    handle.Holds (opened identifier) session.store
  settled : ∀ identifier handle, session.handle? identifier = some handle →
    handle.state.isSettled = true ∨ (handle = .new handle.options ∧ opened identifier = [])
  apart : ∀ first second, first ≠ second → Apart (opened first) (opened second)
  absent : ∀ identifier, session.handle? identifier = none → opened identifier = []

theorem tended_empty : empty.Tended fun _ => [] where
  holds := by
    rintro identifier handle found
    cases found
  settled := by
    rintro identifier handle found
    cases found
  apart := by rintro first second - identifier ⟨⟩
  absent := fun _ _ => rfl

variable {opened : HandleId → List Nat}

theorem Tended.add (tended : session.Tended opened) (options : Options) :
    (session.add (.new options)).2.Tended opened := by
  have before : ∀ position handle, (session.add (.new options)).2.handle? position = some handle →
      session.handle? position = some handle ∨
        (handle = .new options ∧ opened position = []) := by
    intro position handle found
    simp only [Session.add, Session.handle?, List.getElem?_append] at found ⊢
    split at found
    · exact .inl found
    · next beyond =>
      refine .inr ⟨List.mem_singleton.mp (List.mem_of_getElem? found), ?_⟩
      exact tended.absent position (List.getElem?_eq_none (Nat.not_lt.mp beyond))
  constructor
  · intro position handle found
    rcases before position handle found with old | ⟨rfl, none⟩
    · exact tended.holds position handle old
    · rw [none]
      exact Handle.holds_new options _
  · intro position handle found
    rcases before position handle found with old | ⟨rfl, none⟩
    · exact tended.settled position handle old
    · exact .inr ⟨rfl, none⟩
  · exact tended.apart
  · intro position absent
    apply tended.absent position
    have longer := List.getElem?_eq_none_iff.mp absent
    simp only [Session.add, List.length_append] at longer
    exact List.getElem?_eq_none (Nat.le_trans (Nat.le_add_right _ _) longer)

theorem Tended.send (tended : session.Tended opened) {command : Command}
    (spares : ∀ connection, command ≠ .close connection) :
    (session.send command).2.Tended opened where
  holds := fun identifier handle found =>
    (tended.holds identifier handle found).step fun connection _ _ => spares connection
  settled := tended.settled
  apart := tended.apart
  absent := tended.absent

theorem openedIn_idle (worker : act.worker? = some identifier) {position : HandleId}
    (differ : position ≠ identifier) :
    opened position ++ session.openedIn position act = opened position := by
  have idle : act.worker? ≠ some position := by
    rw [worker]
    exact fun same => differ (Option.some.inj same).symm
  rw [openedIn_other idle, List.append_nil]

section Work

variable (tended : session.Tended opened) (worker : act.worker? = some identifier)
  (found : session.handle? identifier = some handle)

include tended found

theorem Tended.start : handle.Holds
    (opened identifier ++ Event.opened (Journal.start session.store).events) session.store :=
  (List.append_nil (opened identifier)).symm ▸ tended.holds identifier handle found

include worker

/-- The handle that works spares the connections of all others. -/
theorem Tended.spared {position : HandleId} (differ : position ≠ identifier) {other : Handle}
    (present : session.handle? position = some other) :
    other.Holds (opened position) (act.work handle session.store).2.store ∧
      Apart (opened identifier ++ session.openedIn identifier act) (opened position) := by
  rw [openedIn_worked worker found]
  apply (act.work_steps handle session.store).spares (tended.start found)
  · exact tended.holds position other present
  · exact (List.append_nil (opened identifier)).symm ▸ tended.apart identifier position differ.symm

theorem Tended.apart_worked {position : HandleId} (differ : position ≠ identifier) :
    Apart (opened identifier ++ session.openedIn identifier act) (opened position) := by
  cases present : session.handle? position with
  | some other => exact (tended.spared worker found differ present).2
  | none =>
    rw [tended.absent position present]
    rintro other - ⟨⟩

theorem Tended.work : (session.perform act).Tended fun position =>
    opened position ++ session.openedIn position act := by
  rw [perform_worked worker found]
  constructor
  · intro position other present
    rcases handle?_update present with ⟨rfl, rfl⟩ | ⟨differ, before⟩
    · rw [openedIn_worked worker found]
      exact (act.work_steps handle session.store).holds (tended.start found)
    · rw [openedIn_idle worker differ]
      exact (tended.spared worker found differ before).1
  · intro position other present
    rcases handle?_update present with ⟨rfl, rfl⟩ | ⟨differ, before⟩
    · exact .inl (act.work_isSettled worker handle session.store)
    · rw [openedIn_idle worker differ]
      exact tended.settled position other before
  · -- Of two different handles at most one has worked.
    intro first second differ
    by_cases same : first = identifier
    · subst same
      rw [openedIn_idle worker differ.symm]
      exact tended.apart_worked worker found differ.symm
    · rw [openedIn_idle worker same]
      by_cases also : second = identifier
      · subst also
        exact (tended.apart_worked worker found same).symm
      · rw [openedIn_idle worker also]
        exact tended.apart first second differ
  · intro position absent
    have before : session.handle? position = none := by
      have beyond := List.getElem?_eq_none_iff.mp absent
      simp only [Session.update, List.length_set] at beyond
      exact List.getElem?_eq_none beyond
    rw [openedIn_absent before, tended.absent position before]
    rfl

end Work

/-- By the kind of act: a handle works, a handle is added, or a command is sent. -/
theorem Tended.perform (tended : session.Tended opened) (act : Act) :
    (session.perform act).Tended fun position =>
      opened position ++ session.openedIn position act := by
  cases worker : act.worker? with
  | some identifier =>
    cases found : session.handle? identifier with
    | some handle => exact tended.work worker found
    | none =>
      have nothing : ∀ position, session.openedIn position act = [] := by
        intro position
        by_cases same : position = identifier
        · exact same ▸ openedIn_absent found
        · exact openedIn_other fun also =>
            same (Option.some.inj (also.symm.trans worker))
      simp only [perform_unworked worker found, nothing, List.append_nil]
      exact tended
  | none =>
    have nothing : ∀ position, session.openedIn position act = [] :=
      fun position => openedIn_other (by rw [worker]; rintro ⟨⟩)
    simp only [nothing, List.append_nil]
    cases act with
    | opens options => exact tended.add options
    | sends command spares => exact tended.send spares
    | settles | begins | runs => cases worker

theorem Tended.performAll (acts : List Act) {session : Session}
    {opened : HandleId → List Nat} (tended : session.Tended opened) :
    (session.performAll acts).Tended fun position =>
      opened position ++ session.opened position acts := by
  induction acts generalizing session opened with
  | nil =>
    simp only [Session.opened, List.append_nil]
    exact tended
  | cons act rest ih =>
    have further := ih (tended.perform act)
    simp only [List.append_assoc] at further
    exact further

end Session

end RecordSql
