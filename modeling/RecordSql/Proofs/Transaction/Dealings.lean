import RecordSql.Proofs.Store.Identifiers
import RecordSql.Proofs.Transaction.Verdict

/-!
How a run deals with its transaction of the store. It begins at most one, writes and reads
in it while it is running, and commits it when nothing is left to do. Whatever else was
running is running afterwards, and nothing more.
-/

namespace RecordSql

/-- A failure that blames neither a finished transaction nor one that may only read. -/
def Failure.IsTimely (cause : Failure) : Prop :=
  ∀ told, cause.cause? = some told → told.kind ≠ .transactionInactive ∧ told.kind ≠ .readOnly

theorem Failure.isTimely_of_silent {cause : Failure} (silent : cause.cause? = none) :
    cause.IsTimely := by
  intro told blamed
  cases silent.symm.trans blamed

namespace Store

/-- A transaction that can read and write. -/
def Serves (store : Store) (transaction : Nat) : Prop :=
  ∃ active, store.transactions.get? transaction = some active ∧ active.mode = .readWrite

variable {store : Store} {transaction : Nat}

/-- What a request can fail with while its transaction can read and write. -/
theorem Serves.request_timely (serves : store.Serves transaction) {collection : String}
    {asked : Request} {cause : StoreError}
    (failed : (store.request transaction collection asked).1 = .error cause)
    (kind : StatementKind) : (Failure.storage kind cause).IsTimely := by
  obtain ⟨active, running, writes⟩ := serves
  rintro told ⟨⟩
  have ends := request_ends store transaction collection asked
  generalize store.request transaction collection asked = result at ends failed
  cases ends with
  | finished absent => cases absent.symm.trans running
  | readOnly other also _ _ refused =>
    cases running.symm.trans also
    cases writes.symm.trans refused
  | uncovered | injected | missing =>
    cases failed
    constructor <;> rintro ⟨⟩
  | rejected active admitted calm held present other refused =>
    cases failed
    rcases Collection.refusal_kind refused with kind | kind <;> rw [kind] <;>
      constructor <;> rintro ⟨⟩
  | answered => cases failed

theorem begin_timely {connection : Nat} {scope : List String} {mode : AccessMode}
    {cause : StoreError}
    (failed : (store.beginTransaction connection scope mode).1 = .error cause) :
    (Failure.transactionFailed cause).IsTimely := by
  rintro told ⟨⟩
  have ends := begin_ends store connection scope mode
  generalize store.beginTransaction connection scope mode = result at ends failed
  cases ends with
  | closed | empty | missing =>
    cases failed
    constructor <;> rintro ⟨⟩
  | begun => cases failed

end Store

/-- Who only comes to a connection leaves the transactions alone. -/
theorem Handle.MayConnect.transactions {name : String} {command : Command}
    (allowed : Handle.MayConnect name command) (store : Store) :
    (store.step command).2.transactions = store.transactions ∧
      (store.step command).2.nextTransaction = store.nextTransaction := by
  have enlists := store.step_enlists command
  generalize told : (⟨command, (store.step command).1⟩ : Exchange) = exchange at enlists
  generalize (store.step command).2 = later at enlists ⊢
  cases enlists with
  | same _ _ _ transactions next => exact ⟨transactions, next⟩
  | begun =>
    cases congrArg Exchange.command told
    cases allowed
  | ended _ _ _ _ ends =>
    rw [← told] at ends
    rcases ends with rfl | rfl <;> cases allowed

namespace Handle

variable {handle : Handle} {journal : Journal} {named : List String} {cause : Failure}
  {connection : Connection} {after : Handle × Journal}

theorem grow_timely (failure : handle.grow connection named journal = (.error cause, after)) :
    cause.IsTimely := by
  have grows := handle.grow_ends connection named journal
  rw [failure] at grows
  cases grows with
  | exhausted => exact Failure.isTimely_of_silent rfl
  | refused refusal reopened room opened =>
    rintro told ⟨⟩
    cases openConnection_ended opened with
    | injected | zero | outdated => constructor <;> rintro ⟨⟩

theorem cover_timely (ready : handle.state = .ready connection)
    (failure : handle.cover named journal = (.error cause, after)) : cause.IsTimely := by
  simp only [cover, Handle.connection, ready] at failure
  split at failure
  · cases failure
  · exact grow_timely failure

/-- How a handle begins a transaction of the store: it makes sure of a connection, and the
begin is the last that it sends. -/
inductive Begins (handle : Handle) (named : List String) (journal : Journal) :
    Except Failure Nat × Handle × Journal → Prop where
  | uncovered (cause : Failure) (covered : Handle × Journal)
      (connects : handle.Connects journal covered)
      (failed : handle.cover named journal = (.error cause, covered)) :
      Begins handle named journal (.error cause, covered)
  | asked (connection : Connection) (covered : Handle × Journal)
      (connects : handle.Connects journal covered) :
      Begins handle named journal
        ((covered.2.store.beginTransaction connection.identifier
            (covered.1.scope connection) .readWrite).1.mapError .transactionFailed,
          covered.1,
          (covered.2.send (.beginTransaction connection.identifier
            (covered.1.scope connection) .readWrite)).2)

theorem beginTransaction_begins (handle : Handle) (named : List String) (journal : Journal) :
    handle.Begins named journal (handle.beginTransaction named journal) := by
  have connects := handle.cover_connects named journal
  rw [beginTransaction]
  generalize covers : handle.cover named journal = reply at connects ⊢
  obtain ⟨cause | connection, covered⟩ := reply
  · exact .uncovered cause covered connects covers
  · exact .asked connection covered connects

end Handle

namespace Event

/-- The transactions of the store that were begun, in order. -/
def begun (events : List Event) : List Nat :=
  events.filterMap fun
    | .exchanged exchange => exchange.begun?
    | _ => none

/-- The transactions of the store that a commit was sent for, in order. -/
def committed (events : List Event) : List Nat :=
  events.filterMap fun
    | .exchanged ⟨.commit transaction, _⟩ => some transaction
    | _ => none

/-- An event in which nothing is asked of a transaction and none begins. -/
def isAside : Event → Bool
  | .exchanged ⟨.request _ _ _, _⟩ => false
  | .exchanged ⟨.commit _, _⟩ => false
  | .exchanged exchange => exchange.begun?.isNone
  | _ => true

theorem begun_append (left right : List Event) :
    begun (left ++ right) = begun left ++ begun right := List.filterMap_append

theorem committed_append (left right : List Event) :
    committed (left ++ right) = committed left ++ committed right := List.filterMap_append

theorem mem_committed {events : List Event} {transaction : Nat}
    {reply : Except StoreError Unit} (sent : .exchanged ⟨.commit transaction, reply⟩ ∈ events) :
    transaction ∈ committed events := List.mem_filterMap.mpr ⟨_, sent, rfl⟩

/-- Where only one commit was sent, it is clear what came before it. -/
theorem split_at_commit {early late before after : List Event} {event : Event}
    {transaction : Nat} {reply : Except StoreError Unit} (first : committed early = [])
    (last : committed late = [])
    (split : early ++ event :: late = before ++ .exchanged ⟨.commit transaction, reply⟩ :: after) :
    before = early ∧ event = .exchanged ⟨.commit transaction, reply⟩ ∧ after = late := by
  have notFirst : .exchanged ⟨.commit transaction, reply⟩ ∉ early := by
    intro member
    have sent := mem_committed member
    rw [first] at sent
    cases sent
  have notLast : .exchanged ⟨.commit transaction, reply⟩ ∉ late := by
    intro member
    have sent := mem_committed member
    rw [last] at sent
    cases sent
  rcases List.append_eq_append_iff.mp split with ⟨inside, same, rest⟩ | ⟨inside, same, rest⟩
  · cases inside with
    | nil =>
      cases rest
      exact ⟨same.trans (List.append_nil _), rfl, rfl⟩
    | cons head others =>
      cases rest
      exact absurd (List.mem_append_right _ List.mem_cons_self) notLast
  · cases inside with
    | nil =>
      cases rest
      exact ⟨(same.trans (List.append_nil _)).symm, rfl, rfl⟩
    | cons head others =>
      cases rest
      rw [same] at notFirst
      exact absurd (List.mem_append_right _ List.mem_cons_self) notFirst

section Aside

variable {events : List Event}

theorem isAside_of_silent (silent : ∀ event ∈ events, event.isExchange = false) :
    ∀ event ∈ events, event.isAside = true := by
  intro event member
  cases event with
  | exchanged exchange => cases silent _ member
  | _ => rfl

theorem begun_aside (aside : ∀ event ∈ events, event.isAside = true) : begun events = [] := by
  apply List.filterMap_eq_nil_iff.mpr
  intro event member
  have told := aside event member
  cases event with
  | exchanged exchange =>
    obtain ⟨command, reply⟩ := exchange
    cases command with
    | beginTransaction =>
      simpa only [isAside, Option.isNone_iff_eq_none] using told
    | _ => rfl
  | _ => rfl

theorem committed_aside (aside : ∀ event ∈ events, event.isAside = true) :
    committed events = [] := by
  apply List.filterMap_eq_nil_iff.mpr
  intro event member
  have told := aside event member
  cases event with
  | exchanged exchange =>
    obtain ⟨command, reply⟩ := exchange
    cases command with
    | commit => cases told
    | _ => rfl
  | _ => rfl

end Aside

/-- Each event of a history is as `Good` asks for, given those before it. -/
def Each (Good : List Event → Event → Prop) (events : List Event) : Prop :=
  ∀ before event after, events = before ++ event :: after → Good before event

section Each

variable {Good : List Event → Event → Prop} {early late : List Event}

theorem Each.append (earlier : Each Good early)
    (later : ∀ before event after, late = before ++ event :: after →
      Good (early ++ before) event) : Each Good (early ++ late) := by
  intro before event after split
  rcases List.append_eq_append_iff.mp split with ⟨inside, same, rest⟩ | ⟨inside, same, rest⟩
  · rw [same]
    exact later inside event after rest
  · cases inside with
    | nil =>
      rw [List.append_nil] at same
      rw [← same, ← List.append_nil early]
      exact later [] event after rest.symm
    | cons first others =>
      cases rest
      exact earlier before event others same

theorem Each.append_free (earlier : Each Good early)
    (free : ∀ before, ∀ event ∈ late, Good before event) : Each Good (early ++ late) := by
  apply earlier.append
  rintro before event after rfl
  exact free _ event (List.mem_append_right _ List.mem_cons_self)

theorem Each.concat (earlier : Each Good early) {event : Event} (good : Good early event) :
    Each Good (early ++ [event]) := by
  apply earlier.append
  intro before last after split
  cases before with
  | nil =>
    cases split
    rw [List.append_nil]
    exact good
  | cons first others =>
    have shorter := congrArg List.length split
    simp at shorter

end Each

/-- Whatever is asked of a transaction of the store, this very history has begun it, and it
can still read and write. -/
def IsServed (store : Store) (before : List Event) : Event → Prop
  | .exchanged ⟨.request transaction _ _, _⟩ =>
      transaction ∈ begun before ∧ (replay store before).Serves transaction
  | .exchanged ⟨.commit transaction, _⟩ =>
      transaction ∈ begun before ∧ (replay store before).Serves transaction
  | _ => True

theorem isServed_of_isAside {store : Store} {event : Event} (aside : event.isAside = true)
    (before : List Event) : event.IsServed store before := by
  cases event with
  | exchanged exchange =>
    obtain ⟨command, reply⟩ := exchange
    cases command with
    | request | commit => cases aside
    | _ => trivial
  | _ => trivial

end Event

theorem Task.start_timely (mode : CollectionMode) (issued : Issued) {cause : Failure}
    (failed : (Task.start mode issued).progress = .done (.error cause)) : cause.IsTimely := by
  simp only [Task.start] at failed
  split at failed
  · cases failed
  · next other planned =>
    cases failed
    exact Failure.isTimely_of_silent (planOf_error planned)

namespace Transaction

/-- What holds between two turns: the transaction of the store still runs, and whoever
settles has found it so. -/
structure Serving (store : Store) (transaction : Nat)
    (running : SortedMap Nat ActiveTransaction) (tasks : List Task) (journal : Journal) :
    Prop where
  replayed : journal.store = Event.replay store journal.events
  transactions : journal.store.transactions = running
  begun : Event.begun journal.events = [transaction]
  uncommitted : Event.committed journal.events = []
  served : Event.Each (Event.IsServed store) journal.events
  tasks : ∀ task ∈ tasks, ∀ cause, task.progress = .done (.error cause) → cause.IsTimely
  settled : ∀ settlement ∈ Event.settlements journal.events,
    ∀ cause, settlement.2 = .error cause → cause.IsTimely

variable {store : Store} {transaction : Nat} {running : SortedMap Nat ActiveTransaction}

/-- Events in which nothing happens to the store. -/
theorem Serving.note {tasks others : List Task} {journal : Journal} {events : List Event}
    (serving : Serving store transaction running tasks journal)
    (silent : ∀ event ∈ events, event.isExchange = false)
    (tasks : ∀ task ∈ others, ∀ cause, task.progress = .done (.error cause) → cause.IsTimely)
    (settled : ∀ settlement ∈ Event.settlements events,
      ∀ cause, settlement.2 = .error cause → cause.IsTimely) :
    Serving store transaction running others (journal.note events) := by
  have aside := Event.isAside_of_silent silent
  constructor
  case replayed => exact Journal.replay_note serving.replayed silent
  case transactions => exact serving.transactions
  case begun =>
    rw [Journal.note, Event.begun_append, Event.begun_aside aside, serving.begun,
      List.append_nil]
  case uncommitted =>
    rw [Journal.note, Event.committed_append, Event.committed_aside aside,
      serving.uncommitted, List.append_nil]
  case served =>
    exact serving.served.append_free fun before event member =>
      Event.isServed_of_isAside (aside event member) before
  case tasks => exact tasks
  case settled =>
    intro settlement member
    rw [Journal.note, Event.settlements_append] at member
    rcases List.mem_append.mp member with before | now
    · exact serving.settled settlement before
    · exact settled settlement now

theorem Serving.serves {tasks : List Task} {journal : Journal}
    (serving : Serving store transaction running tasks journal) {database : String}
    {scope : List String}
    (runs : running.get? transaction = some ⟨database, scope, .readWrite⟩) :
    journal.store.Serves transaction := by
  rw [← serving.transactions] at runs
  exact ⟨_, runs, rfl⟩

/-- By the kind of turn: a request meets the transaction while it runs, and a settlement
is of a task that has. -/
theorem runTasks_serving {schedule : Schedule} {mode : CollectionMode} {database : String}
    {scope : List String}
    (runs : running.get? transaction = some ⟨database, scope, .readWrite⟩) {tasks : List Task}
    {journal : Journal} (serving : Serving store transaction running tasks journal) :
    Serving store transaction running [] (runTasks schedule mode transaction tasks journal) := by
  refine runTasks_keeps (Serving store transaction running) ?_ ?_ tasks journal serving
  · intro issued call rest journal held
    have serves := held.serves runs
    constructor
    case replayed => exact Journal.replay_send held.replayed _
    case transactions => exact (Store.request_transactions ..).trans held.transactions
    case begun => exact (Event.begun_append ..).trans ((List.append_nil _).trans held.begun)
    case uncommitted =>
      exact (Event.committed_append ..).trans ((List.append_nil _).trans held.uncommitted)
    case served =>
      refine held.served.concat ⟨?_, ?_⟩
      · rw [held.begun]
        exact List.mem_singleton_self _
      · rw [← held.replayed]
        exact serves
    case tasks =>
      intro task member cause failed
      rcases mem_requeue.mp member with rfl | waiting
      · generalize replied : (journal.send
          (.request transaction call.collection call.request)).1 = reply at failed
        cases reply with
        | ok answer => cases call <;> cases failed
        | error refusal =>
          cases failed
          exact serves.request_timely replied _
      · exact held.tasks task (List.mem_cons_of_mem _ waiting) cause failed
    case settled =>
      rw [settlements_sent]
      exact held.settled
  · intro issued outcome rest journal held
    rw [settle_eq_note]
    apply held.note (settling_silent issued outcome)
    · intro task member cause failed
      rcases List.mem_append.mp member with waiting | started
      · exact held.tasks task (List.mem_cons_of_mem _ waiting) cause failed
      · obtain ⟨follower, -, rfl⟩ := List.mem_map.mp started
        exact Task.start_timely mode follower failed
    · rw [settlements_settling]
      intro settlement member cause failed
      rw [List.mem_singleton.mp member] at failed
      exact held.tasks _ List.mem_cons_self cause (congrArg Progress.done failed)

/-- Nothing has been asked of a transaction of the store, and none has begun or ended. -/
structure Untouched (store : Store) (journal : Journal) : Prop where
  transactions : journal.store.transactions = store.transactions
  next : journal.store.nextTransaction = store.nextTransaction
  events : ∀ event ∈ journal.events, event.isAside = true

theorem Untouched.start (store : Store) : Untouched store (.start store) := by
  constructor
  case transactions => rfl
  case next => rfl
  case events => rintro event ⟨⟩

theorem Untouched.note {journal : Journal} {events : List Event}
    (untouched : Untouched store journal)
    (silent : ∀ event ∈ events, event.isExchange = false) :
    Untouched store (journal.note events) := by
  constructor
  case transactions => exact untouched.transactions
  case next => exact untouched.next
  case events =>
    intro event member
    rcases List.mem_append.mp member with before | now
    · exact untouched.events event before
    · exact Event.isAside_of_silent silent event now

theorem Untouched.connects {handle : Handle} {journal : Journal} {after : Handle × Journal}
    (untouched : Untouched store journal) (connects : handle.Connects journal after) :
    Untouched store after.2 := by
  have sends := connects.sends
  generalize after.2 = finish at sends
  induction sends with
  | nothing => exact untouched
  | @another journal earlier command allowed ih =>
    obtain ⟨transactions, next⟩ := Handle.MayConnect.transactions allowed journal.store
    constructor
    case transactions => exact transactions.trans ih.transactions
    case next => exact next.trans ih.next
    case events =>
      intro event member
      rcases List.mem_append.mp member with before | now
      · exact ih.events event before
      · rw [List.mem_singleton.mp now]
        cases command with
        | openDatabase | close => rfl
        | beginTransaction | request | commit | abort | inject | snapshot => cases allowed

section Phases

variable (schedule : Schedule) (program : List Statement) (handle : Handle) (store : Store)

theorem awaited_untouched : Untouched store (awaited handle store).2 :=
  (Untouched.start store).connects (awaited_connects handle store)

theorem prepared_untouched : Untouched store (prepared program handle store) := by
  obtain ⟨events, silent, same⟩ := prepared_note program handle store
  rw [same]
  exact (awaited_untouched handle store).note silent

/-- How the transaction of the store begins, if it does. -/
inductive BeginsOnce : Except Failure Nat × Handle × Journal → Prop where
  | refused (cause : Failure) (later : Handle × Journal)
      (timely : ∀ connection, (awaited handle store).1.connection = .ok connection →
        cause.IsTimely)
      (untouched : Untouched store later.2) : BeginsOnce (.error cause, later)
  | begun (connection : Nat) (scope : List String) (database : String) (earlier : Journal)
      (later : Handle × Journal) (untouched : Untouched store earlier)
      (began : later.2.store = earlier.store.began database scope .readWrite)
      (told : later.2.events = earlier.events ++ [.exchanged
        ⟨.beginTransaction connection scope .readWrite, .ok store.nextTransaction⟩]) :
      BeginsOnce (.ok store.nextTransaction, later)

theorem begun_beginsOnce : BeginsOnce handle store (begun program handle store) := by
  have prepared := prepared_untouched program handle store
  have begins := (awaited handle store).1.beginTransaction_begins (named program handle store)
    (Transaction.prepared program handle store)
  rw [← begun] at begins
  generalize begun program handle store = reply at begins
  cases begins with
  | uncovered cause covered connects failed =>
    refine .refused cause covered ?_ (prepared.connects connects)
    intro connection ready
    cases state : (awaited handle store).1.state with
    | ready own => exact Handle.cover_timely state failed
    | opening | upgrading | errored =>
      simp only [Handle.connection, state] at ready
      cases ready
  | asked connection covered connects =>
    have covers := prepared.connects connects
    -- A begin that fails leaves nothing behind but the exchange.
    have refused : ∀ cause, covered.2.store.beginTransaction connection.identifier
        (covered.1.scope connection) .readWrite = (.error cause, covered.2.store) →
        BeginsOnce handle store (.error (.transactionFailed cause), covered.1,
          covered.2.note [.exchanged ⟨.beginTransaction connection.identifier
            (covered.1.scope connection) .readWrite, .error cause⟩]) := by
      intro cause failed
      refine .refused _ _ (fun _ _ => Store.begin_timely (congrArg Prod.fst failed)) ?_
      constructor
      case transactions => exact covers.transactions
      case next => exact covers.next
      case events =>
        intro event member
        rcases List.mem_append.mp member with before | now
        · exact covers.events event before
        · rw [List.mem_singleton.mp now]
          rfl
    have ends := Store.begin_ends covered.2.store connection.identifier
      (covered.1.scope connection) .readWrite
    simp only [Journal.send, Store.step]
    generalize asked : covered.2.store.beginTransaction connection.identifier
      (covered.1.scope connection) .readWrite = result at ends
    cases ends with
    | closed | empty | missing => exact refused _ asked
    | begun database =>
      simp only [covers.next]
      exact .begun connection.identifier _ database covered.2 _ covers rfl rfl

theorem begun_timely : ∀ settlement ∈ Event.settlements (begun program handle store).2.2.events,
    ∀ cause, settlement.2 = .error cause → cause.IsTimely := by
  intro settlement member cause failed
  obtain ⟨other, planned, told⟩ := begun_unplanned program handle store settlement member
  cases told.symm.trans failed
  exact Failure.isTimely_of_silent (planOf_error planned)

variable {program handle store} {transaction : Nat} {later : Handle × Journal}

/-- Every statement that can be carried out sets out with its transaction running. -/
theorem begun_serving (began : begun program handle store = (.ok transaction, later)) :
    Serving store transaction later.2.store.transactions
      ((sorted program handle store).1.map Pending.task) later.2 := by
  have replayed := begun_replayed program handle store
  have timely := begun_timely program handle store
  have once := begun_beginsOnce program handle store
  rw [began] at replayed timely once
  cases once with
  | begun connection scope database earlier later untouched began told =>
    constructor
    case replayed => exact replayed
    case transactions => rfl
    case begun =>
      rw [told, Event.begun_append, Event.begun_aside untouched.events]
      rfl
    case uncommitted =>
      rw [told, Event.committed_append, Event.committed_aside untouched.events]
      rfl
    case served =>
      rw [told, ← List.nil_append (earlier.events ++ _)]
      apply Event.Each.append_free
      · intro before event after split
        cases before <;> cases split
      · intro before event member
        rcases List.mem_append.mp member with aside | now
        · exact Event.isServed_of_isAside (untouched.events event aside) before
        · rw [List.mem_singleton.mp now]
          trivial
    case tasks =>
      intro task member cause failed
      obtain ⟨pending, -, rfl⟩ := List.mem_map.mp member
      cases failed
    case settled => exact timely

theorem begun_runs (began : begun program handle store = (.ok transaction, later)) :
    ∃ database scope, transaction = store.nextTransaction ∧
      later.2.store.transactions =
        store.transactions.insert transaction ⟨database, scope, .readWrite⟩ ∧
      later.2.store.nextTransaction = Store.following store.nextTransaction := by
  have once := begun_beginsOnce program handle store
  rw [began] at once
  cases once with
  | begun connection scope database earlier later untouched began =>
    refine ⟨database, scope, rfl, ?_, ?_⟩
    · rw [began, Store.began, untouched.transactions, untouched.next]
    · rw [began, Store.began, untouched.next]

theorem carried_serving (began : begun program handle store = (.ok transaction, later)) :
    Serving store transaction later.2.store.transactions []
      (carried schedule program handle store transaction later) := by
  obtain ⟨database, scope, -, transactions, -⟩ := begun_runs began
  have runs : later.2.store.transactions.get? transaction =
      some ⟨database, scope, .readWrite⟩ := by
    rw [transactions]
    exact SortedMap.get?_insert_self _ _ _
  have serving := begun_serving began
  apply runTasks_serving runs
  apply serving.note (moves_silent _ _) serving.tasks
  intro settlement member
  have nothing := settlements_moved [] (sorted program handle store).1
  rw [List.nil_append] at nothing
  rw [nothing] at member
  cases member

end Phases

/-- How a run has dealt with the transactions of the store. -/
structure Deals (store : Store) (done : Run) : Prop where
  /-- Every request and every commit is for a transaction that the run has begun and that
  can still read and write. -/
  served : Event.Each (Event.IsServed store) done.journal.events
  /-- No statement fails for want of such a transaction. -/
  timely : ∀ settlement ∈ Event.settlements done.journal.events,
    ∀ cause, settlement.2 = .error cause → cause.IsTimely
  /-- What has begun is committed, once and in order. -/
  committed : Event.committed done.journal.events = Event.begun done.journal.events
  /-- The commit comes after everything else, and finds the transaction unfinished. -/
  last : ∀ before transaction reply after,
    done.journal.events = before ++ .exchanged ⟨.commit transaction, reply⟩ :: after →
    (∀ event ∈ after, event.isRequest = false) ∧
    (∀ place ∈ Event.queuedPlaces done.journal.events,
      place ∈ Issued.places (Settlement.issued (Event.settlements before))) ∧
    ∀ cause, reply = .error cause → cause.kind ≠ .invalidState
  transactions : done.journal.store.transactions = store.transactions

theorem deals_of_aside {store : Store} {done : Run}
    (aside : ∀ event ∈ done.journal.events, event.isAside = true)
    (timely : ∀ settlement ∈ Event.settlements done.journal.events,
      ∀ cause, settlement.2 = .error cause → cause.IsTimely)
    (transactions : done.journal.store.transactions = store.transactions) :
    Deals store done := by
  constructor
  case served =>
    rintro before event after split
    refine Event.isServed_of_isAside (aside event ?_) before
    rw [split]
    exact List.mem_append_right _ List.mem_cons_self
  case timely => exact timely
  case committed => rw [Event.committed_aside aside, Event.begun_aside aside]
  case last =>
    intro before transaction reply after split
    have told := aside (.exchanged ⟨.commit transaction, reply⟩) (by
      rw [split]
      exact List.mem_append_right _ List.mem_cons_self)
    cases told
  case transactions => exact transactions

theorem last_silent (result : Except Failure Unit) :
    ∀ event ∈ [Event.moved (lastStep result), .ending result], event.isExchange = false := by
  intro event member
  rcases List.mem_cons.mp member with rfl | told
  · rfl
  · rw [List.mem_singleton.mp told]
    cases result <;> rfl

theorem Untouched.deals {store : Store} {handle : Handle} {journal : Journal}
    (untouched : Untouched store journal) (result : Except Failure Unit)
    (timely : ∀ settlement ∈ Event.settlements journal.events,
      ∀ cause, settlement.2 = .error cause → cause.IsTimely) :
    Deals store (ended handle journal result) := by
  have after := untouched.note (last_silent result)
  apply deals_of_aside
  · rw [ended_events]
    exact after.events
  · rw [settlements_ended]
    exact timely
  · rw [ended_store]
    exact after.transactions

section Finished

variable {store : Store} {transaction : Nat} {running : SortedMap Nat ActiveTransaction}
  {journal : Journal} {handle : Handle}

/-- The store after the commit, whether or not that has succeeded. -/
theorem commit_erases (running : ∃ active, store.transactions.get? transaction = some active) :
    (store.commit transaction).2.transactions = store.transactions.erase transaction ∧
      ∀ cause, (store.commit transaction).1 = .error cause → cause.kind ≠ .invalidState := by
  have ends := Store.commit_ends store transaction
  generalize store.commit transaction = result at ends
  cases ends with
  | finished absent =>
    obtain ⟨active, runs⟩ := running
    cases absent.symm.trans runs
  | injected =>
    refine ⟨rfl, ?_⟩
    rintro cause ⟨⟩ ⟨⟩
  | committed =>
    refine ⟨rfl, ?_⟩
    rintro cause ⟨⟩

/-- Nothing is left to do, so the queue is closed and the transaction committed. -/
theorem Serving.deals (serving : Serving store transaction running [] journal)
    {database : String} {scope : List String}
    (runs : running = store.transactions.insert transaction ⟨database, scope, .readWrite⟩)
    (fresh : store.transactions.get? transaction = none)
    (settled : ∀ place ∈ Event.queuedPlaces journal.events,
      place ∈ Issued.places (Settlement.issued (Event.settlements journal.events)))
    (result : Except Failure Unit) :
    Deals store (ended handle ((journal.note [.closed]).send (.commit transaction)).2 result) := by
  have closed : Serving store transaction running [] (journal.note [.closed]) := by
    refine serving.note ?_ serving.tasks ?_
    · simp [Event.isExchange]
    · rintro settlement ⟨⟩
  have inserted : running.get? transaction = some ⟨database, scope, .readWrite⟩ := by
    rw [runs]
    exact SortedMap.get?_insert_self _ _ _
  have serves := closed.serves inserted
  obtain ⟨active, present, writes⟩ := serves
  obtain ⟨erased, unfailing⟩ := commit_erases ⟨active, present⟩
  have events : (ended handle ((journal.note [.closed]).send (.commit transaction)).2
      result).journal.events = (journal.note [.closed]).events ++
        .exchanged ⟨.commit transaction,
          ((journal.note [.closed]).store.commit transaction).1⟩ ::
          [.moved (lastStep result), .ending result] := by
    rw [ended_events]
    exact List.append_assoc _ _ _
  have last := Event.isAside_of_silent (last_silent result)
  constructor
  case served =>
    have welcome : (Event.exchanged ⟨.commit transaction,
        ((journal.note [.closed]).store.commit transaction).1⟩).IsServed store
        (journal.note [.closed]).events := by
      constructor
      · rw [closed.begun]
        exact List.mem_singleton_self _
      · rw [← closed.replayed]
        exact ⟨active, present, writes⟩
    rw [events, List.append_cons]
    exact (closed.served.concat welcome).append_free fun before event member =>
      Event.isServed_of_isAside (last event member) before
  case timely =>
    rw [settlements_ended, settlements_sent]
    exact closed.settled
  case committed =>
    rw [events, List.append_cons]
    simp only [Event.committed_append, Event.begun_append, Event.committed_aside last,
      Event.begun_aside last, closed.begun, closed.uncommitted]
    rfl
  case last =>
    intro before other reply after split
    rw [events] at split
    obtain ⟨rfl, same, rfl⟩ := Event.split_at_commit closed.uncommitted
      (Event.committed_aside last) split
    refine ⟨fun event member => Event.isRequest_silent (last_silent result event member), ?_, ?_⟩
    · intro place queued
      have places : Event.queuedPlaces ((journal.note [.closed]).events ++
          .exchanged ⟨.commit transaction, ((journal.note [.closed]).store.commit
            transaction).1⟩ :: [.moved (lastStep result), .ending result]) =
          Event.queuedPlaces journal.events := by
        simp only [Journal.note, Event.queuedPlaces_append]
        cases result <;> exact (List.append_assoc _ _ _).trans (List.append_nil _)
      have told : Event.settlements (journal.note [.closed]).events =
          Event.settlements journal.events :=
        (Event.settlements_append _ _).trans (List.append_nil _)
      rw [events, places] at queued
      rw [told]
      exact settled place queued
    · intro cause failed
      cases same
      exact unfailing cause failed
  case transactions =>
    rw [ended_store]
    refine erased.trans ?_
    rw [closed.transactions, runs]
    exact SortedMap.erase_insert_self _ fresh _

end Finished

section Run

variable (schedule : Schedule) (program : List Statement) (handle : Handle) {store : Store}

/-- By the four endings of a run. -/
theorem run_deals (fresh : store.Fresh) :
    Deals store (run schedule program handle store) := by
  have unprepared := prepared_untouched program handle store
  have refused := begun_timely program handle store
  have once := begun_beginsOnce program handle store
  have ends := run_ends schedule program handle store
  generalize run schedule program handle store = done at ends ⊢
  cases ends with
  | unready cause state =>
    apply (awaited_untouched handle store).deals
    rw [Event.settlements_inner (awaited_inner handle store)]
    rintro settlement ⟨⟩
  | idle connection ready nothing =>
    apply (unprepared.note (by simp [Event.isExchange])).deals
    intro settlement member cause failed
    rw [Journal.note, Event.settlements_append, settlements_prepared,
      ← settlements_begun] at member
    rcases List.mem_append.mp member with before | closed
    · exact refused settlement before cause failed
    · cases closed
  | abandoned connection ready something cause later failed =>
    rw [failed] at refused once
    cases once with
    | refused _ _ timely untouched =>
      refine (untouched.note ?_).deals _ ?_
      · intro event member
        rcases List.mem_cons.mp member with rfl | settled
        · rfl
        · exact abandoned_silent cause _ event settled
      · intro settlement member other blamed
        rw [Journal.note, Event.settlements_append] at member
        rcases List.mem_append.mp member with before | now
        · exact refused settlement before other blamed
        · rcases (abandoned_settle cause _).settled_or_closed now with ⟨-, told⟩ | told
          · cases told.symm.trans blamed
            exact timely connection ready
          · cases told.symm.trans blamed
            exact Failure.isTimely_of_silent rfl
  | finished connection ready something transaction later began =>
    obtain ⟨database, scope, rfl, runs, -⟩ := begun_runs began
    have books := carried_openLedger schedule program handle store store.nextTransaction
    rw [began] at books
    apply (carried_serving schedule began).deals runs (fresh _ (Nat.le_refl _))
    intro place queued
    have balanced := books.balanced.mem_iff.mpr queued
    rwa [List.append_nil] at balanced

end Run

end Transaction

end RecordSql
