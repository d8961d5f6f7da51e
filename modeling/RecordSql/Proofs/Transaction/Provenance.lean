import RecordSql.Proofs.Store.KeyGenerator
import RecordSql.Proofs.Transaction.Verdict

/-!
Where the fields of records come from. If the plans of a program write nothing but given
values, then nothing else is ever stored and nothing else is ever read: a collection hands out
what was put into it, and an update writes back what it has read and what it assigns. Only the
key of a record can come from somewhere else, namely from the collection or from the update.
-/

namespace RecordSql

/-- Which values the field of a collection is given. -/
abbrev Origin := String → String → Value → Prop

/-- Any whole number can be the key of a record. -/
def Origin.AllowsKeys (given : Origin) : Prop :=
  ∀ collection key, given collection Record.keyField (.integer key)

section KeepsTo

variable (given : Origin) (collection : String)

/-- A record of given values. -/
def Record.KeepsTo (record : Record) : Prop :=
  ∀ field value, record.get? field = some value → given collection field value

def Collection.KeepsTo (held : Collection) : Prop :=
  ∀ key record, held.records.get? key = some record → record.KeepsTo given collection

def Store.KeepsTo (store : Store) : Prop :=
  ∀ database collection held, store.collection? database collection = some held →
    held.KeepsTo given collection

def Request.KeepsTo : Request → Prop
  | .add record | .put record => record.KeepsTo given collection
  | .getAll | .get _ | .delete _ => True

/-- An answer that hands out given values alone. -/
def Request.Tells : (asked : Request) → asked.Answer → Prop
  | .getAll, rows => ∀ row ∈ rows, row.KeepsTo given collection
  | .get _, found? => ∀ record, found? = some record → record.KeepsTo given collection
  | .add _, _ | .put _, _ | .delete _, _ => True

def Command.KeepsTo : Command → Prop
  | .request _ collection asked => asked.KeepsTo given collection
  | _ => True

def Plan.KeepsTo : Plan → Prop
  | .insert collection values => values.KeepsTo given collection
  | .update collection _ updates => updates.KeepsTo given collection
  | .select _ | .delete _ _ => True

def Call.KeepsTo : Call → Prop
  | .insert collection values => values.KeepsTo given collection
  | .read collection _ updates => updates.KeepsTo given collection
  | .write collection merged => merged.KeepsTo given collection
  | .select _ | .delete _ _ => True

end KeepsTo

variable {given : Origin} {collection : String}

namespace Record

theorem KeepsTo.insert {record : Record} (keeps : record.KeepsTo given collection)
    {field : String} {value : Value} (allowed : given collection field value) :
    KeepsTo given collection (SortedMap.insert record field value) := by
  intro other held found
  rcases SortedMap.get?_of_insert found with ⟨rfl, rfl⟩ | before
  · exact allowed
  · exact keeps other held before

theorem keepsTo_ofKey (keys : given.AllowsKeys) (collection : String) (key : Key) :
    (ofKey key).KeepsTo given collection :=
  KeepsTo.insert (by rintro field value ⟨⟩) (keys collection key)

/-- What an update writes back was read or is assigned. -/
theorem KeepsTo.merge {record updates : Record} (keeps : record.KeepsTo given collection)
    (assigned : updates.KeepsTo given collection) :
    KeepsTo given collection (SortedMap.merge record updates) := by
  intro field value found
  rw [SortedMap.get?_merge] at found
  rcases Option.or_eq_some_iff.mp found with new | ⟨-, old⟩
  · exact assigned field value new
  · exact keeps field value old

end Record

namespace Collection

theorem KeepsTo.hold {held : Collection} (keeps : held.KeepsTo given collection) {record : Record}
    (allowed : record.KeepsTo given collection) (key nextKey : Key) :
    (held.hold key record nextKey).KeepsTo given collection := by
  intro other found present
  rcases SortedMap.get?_of_insert present with ⟨-, rfl⟩ | before
  · exact allowed
  · exact keeps other found before

/-- A request stores what it carries, and its answer hands out what was stored. -/
theorem KeepsTo.answer {held changed : Collection} (keys : given.AllowsKeys)
    (keeps : held.KeepsTo given collection) {asked : Request}
    (asks : asked.KeepsTo given collection) {answer : asked.Answer}
    (success : held.answer collection asked = .ok (answer, changed)) :
    changed.KeepsTo given collection ∧ asked.Tells given collection answer := by
  have named : ∀ {record : Record} (key : Key), record.KeepsTo given collection →
      Record.KeepsTo given collection (record.insert Record.keyField (.integer key)) :=
    fun key allowed => allowed.insert (keys collection key)
  cases asked with
  | add record =>
    rcases add_ok success with ⟨-, -, rfl⟩ | ⟨-, -, rfl⟩
    · exact ⟨keeps.hold (named _ asks) _ _, trivial⟩
    · exact ⟨keeps.hold asks _ _, trivial⟩
  | put record =>
    rcases put_ok success with ⟨-, -, rfl⟩ | ⟨-, rfl⟩
    · exact ⟨keeps.hold (named _ asks) _ _, trivial⟩
    · exact ⟨keeps.hold asks _ _, trivial⟩
  | getAll =>
    cases success
    refine ⟨keeps, ?_⟩
    intro row member
    obtain ⟨⟨key, record⟩, entry, rfl⟩ := List.mem_map.mp member
    exact keeps key record ((SortedMap.get?_eq_some_iff _ _ _).mpr entry)
  | get key =>
    cases success
    exact ⟨keeps, fun record found => keeps key record found⟩
  | delete key =>
    cases success
    exact ⟨fun other record found => keeps other record (SortedMap.get?_of_erase found), trivial⟩

end Collection

namespace Store

variable {store : Store}

theorem keepsTo_empty (given : Origin) : empty.KeepsTo given := by
  rintro database collection held ⟨⟩

/-- By what a command can do to a collection: keep it, create it empty, or have it answer. -/
theorem KeepsTo.step (keys : given.AllowsKeys) (keeps : store.KeepsTo given) {command : Command}
    (asks : command.KeepsTo given) : (store.step command).2.KeepsTo given := by
  intro database collection held present
  have taken := store.step_collection command database collection
  rw [present] at taken
  generalize same : some held = after at taken
  cases taken with
  | kept => exact keeps database collection held same.symm
  | created =>
    cases same
    rintro key record ⟨⟩
  | answered transaction asked active admitted here calm before found answer changed success =>
    cases same
    exact ((keeps database collection before found).answer keys asks success).1

theorem KeepsTo.tells (keys : given.AllowsKeys) (keeps : store.KeepsTo given) {transaction : Nat}
    {asked : Request} (asks : asked.KeepsTo given collection) {answer : asked.Answer}
    (success : (store.request transaction collection asked).1 = .ok answer) :
    asked.Tells given collection answer := by
  obtain ⟨active, held, changed, -, present, answered, -⟩ :=
    request_ok (Prod.ext success rfl : store.request transaction collection asked =
      (.ok answer, (store.request transaction collection asked).2))
  exact ((keeps _ collection held present).answer keys asks answered).2

end Store

/-- What is left of a plan, as far as the fields of records go. -/
def Issued.Traced (given : Origin) (mode : CollectionMode) (issued : Issued) : Progress → Prop
  | .next call => call.KeepsTo given ∧ ∃ plan, issued.statement.planned mode = .ok plan ∧
      plan.collection = call.collection
  | .done outcome => ∀ result, outcome = .ok result →
      ∃ plan, issued.statement.planned mode = .ok plan ∧
        ∀ row ∈ result.rows, row.KeepsTo given plan.collection

namespace Issued.Traced

variable {mode : CollectionMode} {issued : Issued}

theorem failed (given : Origin) (mode : CollectionMode) (issued : Issued) (cause : Failure) :
    issued.Traced given mode (.done (.error cause)) := by
  rintro result ⟨⟩

theorem ofPlan {plan : Plan} (planned : issued.statement.planned mode = .ok plan)
    (keeps : plan.KeepsTo given) : issued.Traced given mode (.next plan.call) := by
  cases plan with
  | insert | select | update | delete => exact ⟨keeps, _, planned, rfl⟩

theorem start (plans : ∀ plan, issued.statement.planned mode = .ok plan → plan.KeepsTo given) :
    issued.Traced given mode (Task.start mode issued).progress := by
  simp only [Task.start]
  cases planned : issued.statement.planned mode with
  | ok plan => exact ofPlan planned (plans plan planned)
  | error cause => exact failed given mode issued cause

theorem asks {call : Call} (traced : issued.Traced given mode (.next call)) :
    call.request.KeepsTo given call.collection := by
  obtain ⟨keeps, -⟩ := traced
  cases call with
  | insert | write => exact keeps
  | select | read | delete => trivial

/-- A reply that hands out given values leads on to such values alone. -/
theorem resume (keys : given.AllowsKeys) {call : Call}
    (traced : issued.Traced given mode (.next call))
    {reply : Except StoreError call.request.Answer}
    (tells : ∀ answer, reply = .ok answer → call.request.Tells given call.collection answer) :
    issued.Traced given mode (call.resume reply) := by
  cases reply with
  | error cause => exact failed given mode issued _
  | ok answer =>
    have told := tells answer rfl
    obtain ⟨keeps, plan, planned, same⟩ := traced
    cases call with
    | insert | write | delete =>
      rintro result ⟨⟩
      exact ⟨plan, planned, by rintro row ⟨⟩⟩
    | select collection =>
      rintro result ⟨⟩
      exact ⟨plan, planned, same ▸ told⟩
    | read collection key updates =>
      refine ⟨?_, plan, planned, same⟩
      -- What is merged was found, or it is a record of the key alone.
      cases answer with
      | none => exact (Record.keepsTo_ofKey keys collection key).merge keeps
      | some record => exact (told record rfl).merge keeps

end Issued.Traced

namespace Transaction

/-- The plans of a program write given values alone. -/
def Writes (given : Origin) (mode : CollectionMode) (program : List Statement) : Prop :=
  ∀ place statement plan, Place.statement? program place = some statement →
    statement.planned mode = .ok plan → plan.KeepsTo given

/-- What holds between two turns. -/
structure Traces (given : Origin) (mode : CollectionMode) (program : List Statement)
    (tasks : List Task) (journal : Journal) : Prop where
  keeps : journal.store.KeepsTo given
  genuine : ∀ task ∈ tasks,
    task.issued.place.statement? program = some task.issued.statement
  tasks : ∀ task ∈ tasks, task.issued.Traced given mode task.progress
  settled : ∀ settlement ∈ Event.settlements journal.events,
    settlement.1.Traced given mode (.done settlement.2)

variable {schedule : Schedule} {mode : CollectionMode} {program : List Statement}

theorem runTasks_traces (keys : given.AllowsKeys) (writes : Writes given mode program)
    {transaction : Nat} {tasks : List Task} {journal : Journal}
    (traces : Traces given mode program tasks journal) :
    Traces given mode program [] (runTasks schedule mode transaction tasks journal) := by
  refine runTasks_keeps (Traces given mode program) ?_ ?_ tasks journal traces
  -- A call asks with given values and is answered with such values.
  · intro issued call rest journal held
    have traced := held.tasks _ (List.mem_cons_self ..)
    constructor
    · have asks : Command.KeepsTo given (.request transaction call.collection call.request) :=
        traced.asks
      exact held.keeps.step keys asks
    · intro task member
      rcases mem_requeue.mp member with rfl | waiting
      · exact held.genuine ⟨issued, .next call⟩ (List.mem_cons_self ..)
      · exact held.genuine task (List.mem_cons_of_mem _ waiting)
    · intro task member
      rcases mem_requeue.mp member with rfl | waiting
      · exact traced.resume keys fun answer => held.keeps.tells keys traced.asks
      · exact held.tasks task (List.mem_cons_of_mem _ waiting)
    · rw [settlements_sent]
      exact held.settled
  -- A settlement is told as it is; what follows it is a statement of the same program.
  · intro issued outcome rest journal held
    have follows : ∀ follower ∈ issued.followers outcome,
        follower.place.statement? program = some follower.statement := fun follower =>
      Issued.statement?_of_mem_followers (held.genuine _ (List.mem_cons_self ..))
    rw [settle_eq_note]
    constructor
    · exact held.keeps
    · intro task member
      rcases List.mem_append.mp member with waiting | started
      · exact held.genuine task (List.mem_cons_of_mem _ waiting)
      · obtain ⟨follower, after, rfl⟩ := List.mem_map.mp started
        exact follows follower after
    · intro task member
      rcases List.mem_append.mp member with waiting | started
      · exact held.tasks task (List.mem_cons_of_mem _ waiting)
      · obtain ⟨follower, after, rfl⟩ := List.mem_map.mp started
        exact .start fun plan => writes _ _ plan (follows follower after)
    · intro settlement member
      simp only [Journal.note, Event.settlements_append, settlements_settling] at member
      rcases List.mem_append.mp member with before | now
      · exact held.settled settlement before
      · rw [List.mem_singleton.mp now]
        exact held.tasks _ (List.mem_cons_self ..)

section Run

variable {handle : Handle} {store : Store}

theorem maySend_keepsTo {name : String} {command : Command}
    (allowed : Handle.MaySend name command) : command.KeepsTo given := by
  cases command with
  | request => cases allowed
  | openDatabase | close | beginTransaction | commit | abort | inject | snapshot => trivial

theorem awaited_keepsTo (keys : given.AllowsKeys) (keeps : store.KeepsTo given) :
    (awaited handle store).2.store.KeepsTo given :=
  (awaited_continues handle store).sends.keeps (Store.KeepsTo given)
    (fun _ _ allowed held => held.step keys (maySend_keepsTo allowed)) keeps

theorem begun_keepsTo (program : List Statement) (handle : Handle) (keys : given.AllowsKeys)
    (keeps : store.KeepsTo given) :
    (begun program handle store).2.2.store.KeepsTo given :=
  (begun_continues program handle store).sends.keeps (Store.KeepsTo given)
    (fun _ _ allowed held => held.step keys (maySend_keepsTo allowed))
    (awaited_keepsTo keys keeps)

theorem begun_traces (keys : given.AllowsKeys)
    (writes : Writes given handle.options.mode program) (keeps : store.KeepsTo given) :
    Traces given handle.options.mode program ((sorted program handle store).1.map Pending.task)
      ((begun program handle store).2.2.note
        ((sorted program handle store).1.map fun _ => .moved .statementIssued)) := by
  have genuine : ∀ pending ∈ (sorted program handle store).1,
      pending.issued.place.statement? program = some pending.issued.statement :=
    fun pending waits => (begun_openLedger program handle store).ledger.genuine _
      (List.mem_append_right _ (List.mem_map_of_mem waits))
  constructor
  · exact begun_keepsTo program handle keys keeps
  · intro task member
    obtain ⟨pending, waits, rfl⟩ := List.mem_map.mp member
    exact genuine pending waits
  · intro task member
    obtain ⟨pending, waits, rfl⟩ := List.mem_map.mp member
    have planned := triage_planned waits
    rw [awaited_options handle store] at planned
    exact .ofPlan planned (writes _ _ _ (genuine pending waits) planned)
  · intro settlement member
    rw [Journal.note, settlements_moved] at member
    obtain ⟨cause, -, told⟩ := begun_unplanned program handle store settlement member
    rw [told]
    exact .failed given _ _ cause

/-- Where nothing has settled but failures, no record was handed out. -/
theorem traces_of_failures {journal : Journal} (keeps : journal.store.KeepsTo given)
    (failed : ∀ settlement ∈ Event.settlements journal.events,
      ∃ cause, settlement.2 = .error cause) :
    Traces given mode program [] journal := by
  refine ⟨keeps, by rintro task ⟨⟩, by rintro task ⟨⟩, ?_⟩
  intro settlement member
  obtain ⟨cause, told⟩ := failed settlement member
  rw [told]
  exact .failed given mode settlement.1 cause

/-- By how a run ends: only where it has carried out its statements records were read. -/
theorem run_traces (schedule : Schedule) (keys : given.AllowsKeys)
    (writes : Writes given handle.options.mode program) (keeps : store.KeepsTo given) :
    Traces given handle.options.mode program [] (run schedule program handle store).journal := by
  have rejected : ∀ settlement ∈ Event.settlements (begun program handle store).2.2.events,
      ∃ cause, settlement.2 = .error cause := by
    intro settlement member
    obtain ⟨cause, -, told⟩ := begun_unplanned program handle store settlement member
    exact ⟨cause, told⟩
  have ends := run_ends schedule program handle store
  generalize run schedule program handle store = done at ends ⊢
  cases ends with
  | unready cause state =>
    apply traces_of_failures
    · rw [ended_store]
      exact awaited_keepsTo keys keeps
    · rw [settlements_ended, Event.settlements_inner (awaited_inner handle store)]
      rintro settlement ⟨⟩
  | idle connection ready nothing =>
    apply traces_of_failures
    · rw [ended_store]
      exact awaited_keepsTo keys keeps
    · rw [settlements_ended, Journal.note, Event.settlements_append, settlements_prepared,
        ← settlements_begun]
      intro settlement member
      rcases List.mem_append.mp member with before | closed
      · exact rejected settlement before
      · cases closed
  | abandoned connection ready something cause later failed =>
    have begins := begun_keepsTo program handle keys keeps
    rw [failed] at begins rejected
    apply traces_of_failures
    · rw [ended_store]
      exact begins
    · rw [settlements_ended, Journal.note, Event.settlements_append]
      intro settlement member
      rcases List.mem_append.mp member with before | closed
      · exact rejected settlement before
      · rcases (abandoned_settle cause _).settled_or_closed closed with ⟨-, told⟩ | told
        · exact ⟨cause, told⟩
        · exact ⟨_, told⟩
  | finished connection ready something transaction later began =>
    have options := begun_options program handle store
    have begins := begun_traces keys writes keeps
    rw [began] at options begins
    have carries : Traces given handle.options.mode program []
        (carried schedule program handle store transaction later) := by
      rw [carried, options]
      exact runTasks_traces keys writes begins
    refine ⟨?_, by rintro task ⟨⟩, by rintro task ⟨⟩, ?_⟩
    · have commits : Command.KeepsTo given (.commit transaction) := trivial
      rw [ended_store]
      exact carries.keeps.step keys commits
    · rw [settlements_ended, settlements_committed]
      exact carries.settled

end Run

end Transaction

end RecordSql
