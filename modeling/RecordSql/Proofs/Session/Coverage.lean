import RecordSql.Proofs.Transaction.Coverage
import RecordSql.Session

/-!
Handles that share a database. In a session whose handles are all on one
database every handle keeps true knowledge of it. What a handle needs is
therefore covered unless it has overlooked it, which takes another handle that
raised the version by one.
-/

namespace RecordSql

/-- A history of a session in which one database alone is opened. -/
inductive Session.Reaches (name : String) (start : Session) : Session → Prop where
  | nothing : Reaches name start start
  | opened {session : Session} (earlier : Reaches name start session) (options : Options)
      (own : options.name = name) : Reaches name start (session.add (.new options)).2
  | settled {session : Session} (earlier : Reaches name start session)
      (identifier : HandleId) : Reaches name start (session.settle identifier)
  | ran {session : Session} (earlier : Reaches name start session) (schedule : Schedule)
      (program : List Statement) (identifier : HandleId) :
      Reaches name start (session.run schedule program identifier).2
  | sent {session : Session} (earlier : Reaches name start session) (command : Command)
      (own : command.OpensOnly name) : Reaches name start (session.send command).2

namespace Session

variable {name : String} {start session : Session}

/-- Every handle is on the one database and knows it. -/
def Knows (name : String) (session : Session) : Prop :=
  ∀ handle ∈ session.handles, handle.options.name = name ∧ handle.Knows session.store

theorem Knows.keeps {store : Store} (knows : session.Knows name)
    (kept : ∀ Holds : Store → Prop, (∀ store command, command.OpensOnly name → Holds store →
      Holds (store.step command).2) → Holds session.store → Holds store) :
    ∀ handle ∈ session.handles, handle.options.name = name ∧ handle.Knows store := by
  intro handle member
  obtain ⟨own, known⟩ := knows handle member
  refine ⟨own, kept handle.Knows ?_ known⟩
  intro store command only held connection ready
  rw [← own] at only
  exact (held connection ready).step command only

theorem Knows.update {handle : Handle} {store : Store} (knows : session.Knows name)
    (kept : ∀ Holds : Store → Prop, (∀ store command, command.OpensOnly name → Holds store →
      Holds (store.step command).2) → Holds session.store → Holds store)
    (own : handle.options.name = name) (known : handle.Knows store) (identifier : HandleId) :
    (session.update identifier handle store).Knows name := by
  intro other member
  rcases List.mem_or_eq_of_mem_set member with before | same
  · exact knows.keeps kept other before
  · rw [same]
    exact ⟨own, known⟩

theorem Reaches.knows (reached : Reaches name start session) (empty : start.handles = []) :
    session.Knows name := by
  induction reached with
  | nothing =>
    intro handle member
    rw [empty] at member
    cases member
  | opened earlier options own ih =>
    intro handle member
    rcases List.mem_append.mp member with before | new
    · exact ih handle before
    · rw [List.mem_singleton.mp new]
      exact ⟨own, by rintro connection ⟨⟩⟩
  | @settled session earlier identifier ih =>
    rw [settle]
    cases found : session.handle? identifier with
    | none => exact ih
    | some handle =>
      obtain ⟨own, known⟩ := ih handle (List.mem_of_getElem? found)
      have continued := handle.settle_continues (.start session.store)
      refine Knows.update ih ?_ ?_ ?_ identifier
      · intro Holds step
        rw [← own] at step
        exact continued.sends.keeps Holds fun store command allowed =>
          step store command allowed.opensOnly
      · exact (congrArg Options.name continued.options).trans own
      · exact handle.settle_knows (.start session.store) known
  | @ran session earlier schedule program identifier ih =>
    rw [run]
    cases found : session.handle? identifier with
    | none => exact ih
    | some handle =>
      obtain ⟨own, known⟩ := ih handle (List.mem_of_getElem? found)
      refine Knows.update ih ?_ ?_ ?_ identifier
      · intro Holds step
        rw [← own] at step
        exact Transaction.run_keeps schedule program step
      · rw [Transaction.run_options]
        exact own
      · exact Transaction.run_knows schedule program known
  | sent earlier command own ih =>
    exact ih.keeps fun Holds step held => step _ command own held

/-- Once a transaction of the store has begun on a ready handle, each collection
that is needed is there and covered exactly if it was not overlooked, and each
statement of the setup finds its collection exactly if it was not overlooked. -/
theorem needed_is_covered_unless_overlooked (empty : start.handles = [])
    (reached : Reaches name start session) {handle : Handle}
    (member : handle ∈ session.handles) :
    (∀ connection named journal transaction after, handle.state = .ready connection →
      journal.store = session.store →
      handle.beginTransaction named journal = (.ok transaction, after) →
      ∃ active, after.2.store.transactions.get? transaction = some active ∧
        active.database = name ∧ ∀ collection ∈ handle.needed named,
          ((after.2.store.collection? name collection).isSome = true ∧
            collection ∈ active.scope) ↔
          ¬handle.Overlooks connection session.store collection) ∧
    ∀ schedule program connection transaction later,
      (Transaction.awaited handle session.store).1.state = .ready connection →
      Transaction.begun program handle session.store = (.ok transaction, later) →
      ∀ issued ∈ issuedAtSetup program, ∃ outcome,
        Settlement.outcomesAt issued.place (Event.settlements
          (Transaction.run schedule program handle session.store).journal.events) = [outcome] ∧
        (outcome.NotFound ↔ ∃ plan,
          issued.statement.planned handle.options.mode = .ok plan ∧
          (Transaction.awaited handle session.store).1.Overlooks connection
            (Transaction.awaited handle session.store).2.store plan.collection) := by
  obtain ⟨own, known⟩ := reached.knows empty handle member
  constructor
  · intro connection named journal transaction after ready same began
    rw [← same] at known ⊢
    obtain ⟨active, running, here, -, present, covers⟩ :=
      Handle.begin_covers ready began known
    rw [own] at here present
    refine ⟨active, running, here, fun collection needs => ?_⟩
    rw [← covers collection needs]
    exact ⟨And.right, fun covered => ⟨present collection covered, covered⟩⟩
  · intro schedule program connection transaction later ready began issued issues
    exact Transaction.run_overlooks ready known began issues

def inserting (table : String) : Statement :=
  ⟨"INSERT INTO " ++ table ++ " (a) VALUES (?)", [.integer 1], none, none⟩

/-- Two handles were opened on a database before the first one inserted into a
collection that was not there. -/
def shared : Session :=
  let opened := ((empty.add (.new (.named "notes"))).2.add (.new (.named "notes"))).2
  (((opened.settle 0).settle 1).run .serial [inserting "t"] 0).2

def second : Handle := (shared.handle? 1).getD default

theorem shared_reached : Reaches "notes" empty shared := by
  have opened : Reaches "notes" empty
      ((empty.add (.new (.named "notes"))).2.add (.new (.named "notes"))).2 :=
    (Reaches.nothing.opened (.named "notes") rfl).opened (.named "notes") rfl
  exact ((opened.settled 0).settled 1).ran .serial [inserting "t"] 0

theorem second_mem : second ∈ shared.handles := by
  have there : (shared.handle? 1).isSome = true := by decide +kernel
  apply List.mem_of_getElem? (i := 1)
  obtain ⟨handle, found⟩ := Option.isSome_iff_exists.mp there
  rw [second, found]
  exact found

theorem second_handle_covers : ∃ connection transaction later,
    (Transaction.awaited second shared.store).1.state = .ready connection ∧
    Transaction.begun [inserting "t"] second shared.store = (.ok transaction, later) ∧
    ∃ outcome, Settlement.outcomesAt (.top 0) (Event.settlements
        (Transaction.run .serial [inserting "t"] second shared.store).journal.events) =
          [outcome] ∧
      (outcome.NotFound ↔ ∃ plan, (inserting "t").planned second.options.mode = .ok plan ∧
        (Transaction.awaited second shared.store).1.Overlooks connection
          (Transaction.awaited second shared.store).2.store plan.collection) := by
  have isReady : (Transaction.awaited second shared.store).1.connection.isOk = true := by
    decide +kernel
  have isOk : (Transaction.begun [inserting "t"] second shared.store).1.isOk = true := by
    decide +kernel
  have settles := (needed_is_covered_unless_overlooked rfl shared_reached second_mem).2
  cases ready : (Transaction.awaited second shared.store).1.state with
  | opening | upgrading | errored =>
    simp only [Handle.connection, ready] at isReady
    cases isReady
  | ready connection =>
    generalize began : Transaction.begun [inserting "t"] second shared.store = reply at isOk
    obtain ⟨cause | transaction, later⟩ := reply
    · cases isOk
    · exact ⟨connection, transaction, later, rfl, rfl,
        settles .serial [inserting "t"] connection transaction later ready began
          ⟨.top 0, inserting "t"⟩ (List.mem_cons_self ..)⟩

/-- The second handle needs a collection that is not there, but the version that
would create it is the one that the first handle has raised the database to. -/
theorem second_handle_overlooks :
    Reaches "notes" empty shared ∧ second ∈ shared.handles ∧
    (Transaction.begun [inserting "u"] second shared.store).1.isOk = true ∧
    ∃ outcome ∈ Settlement.outcomesAt (.top 0) (Event.settlements
        (Transaction.run .serial [inserting "u"] second shared.store).journal.events),
      outcome.NotFound := by
  refine ⟨shared_reached, second_mem, ?_, ?_⟩
  · decide +kernel
  · decide +kernel

end Session

end RecordSql
