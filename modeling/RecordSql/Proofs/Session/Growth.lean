import RecordSql.Proofs.Handle.Growth
import RecordSql.Proofs.Session.History

/-!
Handles that are alone on their database. What such a handle knows of its database is
all there is. Beginning a transaction therefore changes nothing if all that is needed
is there, and otherwise carries out one upgrade or none at all.
-/

namespace RecordSql

open Handle (Steps)

/-- Nobody opens the database of this name past the handles. -/
def Act.Leaves (name : String) : Act → Prop
  | .sends command _ => command.Leaves name
  | _ => True

namespace Session

variable {session : Session} {act : Act} {name : String} {position identifier : HandleId}
  {handle later : Handle} {store : Store}

/-- At most one handle is on the database. -/
def Alone (name : String) (session : Session) : Prop :=
  ∀ first second handle other, session.handle? first = some handle →
    session.handle? second = some other → handle.options.name = name →
    other.options.name = name → first = second

/-- The connections of all handles on the database tell everything. -/
def Mirrors (name : String) (session : Session) : Prop :=
  ∀ identifier handle, session.handle? identifier = some handle → handle.options.name = name →
    handle.Mirrors session.store

theorem update_handle?_self (found : session.handle? identifier = some handle) :
    (session.update identifier later store).handle? identifier = some later := by
  have within := (List.getElem?_eq_some_iff.mp found).1
  exact List.getElem?_set_self within

theorem update_handle?_of_ne (differ : position ≠ identifier) :
    (session.update identifier later store).handle? position = session.handle? position :=
  List.getElem?_set_ne differ.symm

/-- Nobody else's act changes a handle. -/
theorem perform_handle?_of_idle (idle : act.worker? ≠ some position)
    (found : session.handle? position = some handle) :
    (session.perform act).handle? position = some handle := by
  cases worker : act.worker? with
  | some identifier =>
    have differ : position ≠ identifier := by
      rintro rfl
      exact idle worker
    cases present : session.handle? identifier with
    | none => rwa [perform_unworked worker present]
    | some working =>
      rw [perform_worked worker present]
      exact (update_handle?_of_ne differ).trans found
  | none =>
    cases act with
    | opens options =>
      have within := (List.getElem?_eq_some_iff.mp found).1
      exact (List.getElem?_append_left within).trans found
    | sends => exact found
    | settles | begins | runs => cases worker

/-- A handle keeps its place and its options. -/
theorem perform_handle? (found : session.handle? position = some handle) (act : Act) :
    ∃ later, (session.perform act).handle? position = some later ∧
      later.options = handle.options := by
  by_cases worker : act.worker? = some position
  · rw [perform_worked worker found]
    exact ⟨_, update_handle?_self found, (act.work_steps handle session.store).options⟩
  · exact ⟨handle, perform_handle?_of_idle worker found, rfl⟩

theorem performAll_handle? (acts : List Act) {session : Session} {handle : Handle}
    (found : session.handle? position = some handle) :
    ∃ later, (session.performAll acts).handle? position = some later ∧
      later.options = handle.options := by
  induction acts generalizing session handle with
  | nil => exact ⟨handle, found, rfl⟩
  | cons act rest ih =>
    obtain ⟨middle, next, same⟩ := perform_handle? found act
    obtain ⟨last, reached, also⟩ := ih next
    exact ⟨last, reached, also.trans same⟩

/-- Whoever is alone in the end was alone all the time. -/
theorem Alone.earlier {acts : List Act} (alone : (session.performAll acts).Alone name) :
    session.Alone name := by
  intro first second handle other found also mine theirs
  obtain ⟨handle', found', same⟩ := performAll_handle? acts found
  obtain ⟨other', also', equal⟩ := performAll_handle? acts also
  refine alone first second handle' other' found' also' ?_ ?_
  · rw [same]
    exact mine
  · rw [equal]
    exact theirs

/-- By whose work it is: the handle's own, which tells it everything, or that of a
handle on another database. -/
theorem Mirrors.work (mirrors : session.Mirrors name) (alone : session.Alone name)
    (worker : act.worker? = some identifier) (found : session.handle? identifier = some handle) :
    (session.perform act).Mirrors name := by
  have steps := act.work_steps handle session.store
  rw [perform_worked worker found]
  intro position other present own
  rcases handle?_update present with ⟨-, rfl⟩ | ⟨differ, before⟩
  · rw [steps.options] at own
    exact steps.mirrors (mirrors identifier handle found own)
  · apply steps.mirrors_elsewhere (mirrors position other before own)
    intro same
    exact differ (alone position identifier other handle before found own (same ▸ own))

theorem Mirrors.perform (mirrors : session.Mirrors name) (alone : session.Alone name)
    (leaves : act.Leaves name) : (session.perform act).Mirrors name := by
  cases worker : act.worker? with
  | some identifier =>
    cases found : session.handle? identifier with
    | some handle => exact mirrors.work alone worker found
    | none =>
      rw [perform_unworked worker found]
      exact mirrors
  | none =>
    intro position handle present own connection ready
    cases act with
    | opens options =>
      simp only [Session.perform, Session.add, Session.handle?, List.getElem?_append] at present
      split at present
      · exact mirrors position handle present own connection ready
      · rw [List.mem_singleton.mp (List.mem_of_getElem? present)] at ready
        cases ready
    | sends command spares =>
      rw [own]
      have before := mirrors position handle present own connection ready
      rw [own] at before
      exact before.step leaves
    | settles | begins | runs => cases worker

theorem Mirrors.performAll (acts : List Act) {session : Session} (mirrors : session.Mirrors name)
    (alone : (session.performAll acts).Alone name) (leaves : ∀ act ∈ acts, act.Leaves name) :
    (session.performAll acts).Mirrors name := by
  induction acts generalizing session with
  | nil => exact mirrors
  | cons act rest ih =>
    have before : session.Alone name := Alone.earlier alone
    apply ih (mirrors.perform before (leaves act (List.mem_cons_self ..))) alone
    exact fun other member => leaves other (List.mem_cons_of_mem act member)

theorem mirrors_empty (name : String) : empty.Mirrors name := by
  rintro identifier handle ⟨⟩

/-- A ready handle that is alone on its database, below the greatest version. If all
that a transaction needs is there, beginning it changes no database. Otherwise it
begins after a single upgrade that adds what is missing, empty, and keeps all else;
where one open is made to fail the databases and the version of the handle are as
before, and where two are made to fail the handle is errored. -/
theorem missing_collections_take_one_upgrade (acts : List Act)
    (found : (empty.performAll acts).handle? identifier = some handle)
    (alone : (empty.performAll acts).Alone handle.options.name)
    (leaves : ∀ act ∈ acts, act.Leaves handle.options.name) {connection : Connection}
    (ready : handle.state = .ready connection) (left : connection.version < 4294967295)
    (named : List String) {journal : Journal}
    (here : journal.store = (empty.performAll acts).store) :
    connection.version = (journal.store.database handle.options.name).version ∧
    ((∀ collection ∈ handle.needed named,
        (journal.store.collection? handle.options.name collection).isSome = true) →
      (handle.beginTransaction named journal).2.1 = handle ∧
      (handle.beginTransaction named journal).2.2.store.databases = journal.store.databases) ∧
    ((∃ collection ∈ handle.needed named,
        journal.store.collection? handle.options.name collection = none) →
      (.openDatabase ∉ journal.store.faults → ∃ transaction after reached,
        handle.beginTransaction named journal = (.ok transaction, after) ∧
        after.1.state = .ready reached ∧ reached.version = connection.version + 1 ∧
        journal.store.GrownBy handle.options.name (handle.needed named) after.2.store) ∧
      (journal.store.faults.count .openDatabase = 1 → ∃ after reached,
        handle.beginTransaction named journal =
          (.error (.transactionFailed (.injected .openDatabase)), after) ∧
        after.1.state = .ready reached ∧ reached.version = connection.version ∧
        after.2.store.databases = journal.store.databases) ∧
      (2 ≤ journal.store.faults.count .openDatabase → ∃ after,
        handle.beginTransaction named journal =
          (.error (.transactionFailed (.injected .openDatabase)), after) ∧
        after.1.state = .errored (.openFailed (.injected .openDatabase)) ∧
        after.2.store.databases = journal.store.databases)) := by
  have known := Mirrors.performAll acts (mirrors_empty _) alone leaves identifier handle found rfl
  rw [← here] at known
  have mirrors := known connection ready
  refine ⟨mirrors.version, ?_, ?_⟩
  · intro present
    exact Handle.begin_known_same ready ((Handle.missing_eq_nil_iff mirrors).mpr present)
  · rintro ⟨collection, needs, absent⟩
    have something : handle.missing connection named ≠ [] := by
      intro nothing
      have present := (Handle.missing_eq_nil_iff mirrors).mp nothing collection needs
      rw [absent] at present
      cases present
    refine ⟨?_, ?_, ?_⟩
    · exact Handle.begin_grows ready mirrors left something
    · exact Handle.begin_falls_back ready mirrors left something
    · exact Handle.begin_is_errored ready left something

/-- A handle with one collection on a store where one open will be made to fail. -/
def failing : List Act :=
  [.opens (.named "notes"), .runs .serial [inserting "t"] 0,
    .sends (.inject .openDatabase) (Command.inject_spares .openDatabase)]

def lone : Handle := ((empty.performAll failing).handle? 0).getD default

theorem lone_found : (empty.performAll failing).handle? 0 = some lone := by
  have there : ((empty.performAll failing).handle? 0).isSome = true := by decide +kernel
  obtain ⟨handle, found⟩ := Option.isSome_iff_exists.mp there
  rw [lone, found]
  rfl

theorem lone_alone (name : String) : (empty.performAll failing).Alone name := by
  have single : (empty.performAll failing).handles.length = 1 := by decide +kernel
  intro first second handle other found also _ _
  have left := (List.getElem?_eq_some_iff.mp found).1
  have right := (List.getElem?_eq_some_iff.mp also).1
  rw [single] at left right
  exact (Nat.lt_one_iff.mp left).trans (Nat.lt_one_iff.mp right).symm

theorem lone_handle_falls_back : ∃ connection after reached,
    lone.state = .ready connection ∧
    lone.beginTransaction ["u", "v"] (.start (empty.performAll failing).store) =
      (.error (.transactionFailed (.injected .openDatabase)), after) ∧
    after.1.state = .ready reached ∧ reached.version = connection.version ∧
    after.2.store.databases = (empty.performAll failing).store.databases := by
  have isReady : lone.connection.toOption.any (fun connection =>
      decide (connection.version < 4294967295)) = true := by decide +kernel
  have leaves : ∀ act ∈ failing, act.Leaves lone.options.name := by
    simp only [failing, List.forall_mem_cons, Act.Leaves, Command.Leaves]
    simp
  have absent : ∃ collection ∈ lone.needed ["u", "v"],
      ((empty.performAll failing).store.collection? lone.options.name collection).isNone =
        true := ⟨"u", by decide +kernel, by decide +kernel⟩
  cases ready : lone.state with
  | opening | upgrading | errored =>
    simp only [Handle.connection, ready] at isReady
    cases isReady
  | ready connection =>
    simp only [Handle.connection, ready] at isReady
    obtain ⟨-, -, grows⟩ := missing_collections_take_one_upgrade failing lone_found
      (lone_alone _) leaves ready (of_decide_eq_true isReady) ["u", "v"]
      (show (Journal.start (empty.performAll failing).store).store = _ from rfl)
    obtain ⟨collection, needs, nothing⟩ := absent
    obtain ⟨-, fallsBack, -⟩ := grows ⟨collection, needs, Option.isNone_iff_eq_none.mp nothing⟩
    obtain ⟨after, reached, begins⟩ := fallsBack (by decide +kernel)
    exact ⟨connection, after, reached, rfl, begins⟩

end Session

end RecordSql
