import RecordSql.Proofs.Session.Coverage
import RecordSql.Proofs.Transaction.Completion

/-!
Handles that are served side by side. As long as nobody closes a handle's
connection behind its back, every handle of a session stays attached to the
database, and no two of them share an identifier. Without faults a run on a ready
handle is therefore done, unless others have raised the version of the database
in a way that strands the handle.
-/

namespace RecordSql

/-- A history of a session in which one database alone is opened and the
connections of handles are left to them. -/
inductive Session.Serves (name : String) (start : Session) : Session → Prop where
  | nothing : Serves name start start
  | opened {session : Session} (earlier : Serves name start session) (options : Options)
      (own : options.name = name) : Serves name start (session.add (.new options)).2
  | settled {session : Session} (earlier : Serves name start session)
      (identifier : HandleId) : Serves name start (session.settle identifier)
  | ran {session : Session} (earlier : Serves name start session) (schedule : Schedule)
      (program : List Statement) (identifier : HandleId) :
      Serves name start (session.run schedule program identifier).2
  | sent {session : Session} (earlier : Serves name start session) (command : Command)
      (own : command.OpensOnly name)
      (spared : ∀ handle ∈ session.handles, ∀ connection, handle.state = .ready connection →
        command ≠ .close connection.identifier) :
      Serves name start (session.send command).2

namespace Session

variable {name : String} {start session : Session}

theorem Serves.reaches (served : Serves name start session) : Reaches name start session := by
  induction served with
  | nothing => exact .nothing
  | opened earlier options own ih => exact ih.opened options own
  | settled earlier identifier ih => exact ih.settled identifier
  | ran earlier schedule program identifier ih => exact ih.ran schedule program identifier
  | sent earlier command own spared ih => exact ih.sent command own

/-- Every ready handle is attached, by an identifier of its own. -/
structure Attended (name : String) (session : Session) : Prop where
  attached : ∀ handle ∈ session.handles, ∀ connection, handle.state = .ready connection →
    connection.Attached name session.store
  apart : session.store.nextConnection < Store.lastIdentifier → ∀ first second,
    first ≠ second → ∀ handle other connection another,
      session.handle? first = some handle → session.handle? second = some other →
      handle.state = .ready connection → other.state = .ready another →
      connection.identifier ≠ another.identifier

theorem Attended.add (attended : session.Attended name) (options : Options) :
    (session.add (.new options)).2.Attended name where
  attached := by
    intro handle member connection ready
    rcases List.mem_append.mp member with before | new
    · exact attended.attached handle before connection ready
    · rw [List.mem_singleton.mp new] at ready
      cases ready
  apart := by
    -- The new handle is not ready, so both are handles of before.
    have before : ∀ (position : HandleId) (handle : Handle) (connection : Connection),
        (session.add (.new options)).2.handle? position = some handle →
        handle.state = .ready connection → session.handle? position = some handle := by
      intro position handle connection found ready
      simp only [Session.add, Session.handle?, List.getElem?_append] at found ⊢
      split at found
      · exact found
      · rw [List.mem_singleton.mp (List.mem_of_getElem? found)] at ready
        cases ready
    intro left first second differ handle other connection another found also ready alsoReady
    exact attended.apart left first second differ handle other connection another
      (before first handle connection found ready)
      (before second other another also alsoReady) ready alsoReady

section Update

variable {handle later : Handle} {store : Store} {identifier : HandleId}
  (attended : session.Attended name) (own : handle.options.name = name)
  (found : session.handle? identifier = some handle)
  (moves : handle.Moves session.store later store)

theorem handle?_update {position : HandleId} {other : Handle}
    (present : (session.update identifier later store).handle? position = some other) :
    (position = identifier ∧ other = later) ∨
      (position ≠ identifier ∧ session.handle? position = some other) := by
  by_cases same : identifier = position
  · simp only [Session.update, Session.handle?, List.getElem?_set, if_pos same] at present
    split at present
    · exact .inl ⟨same.symm, (Option.some.inj present).symm⟩
    · cases present
  · simp only [Session.update, Session.handle?, List.getElem?_set, if_neg same] at present
    exact .inr ⟨Ne.symm same, present⟩

include attended found moves

/-- A handle that has worked has not taken the identifier of another one. -/
theorem Attended.apart_of_moves (left : store.nextConnection < Store.lastIdentifier)
    {position : HandleId} (differ : position ≠ identifier) {other : Handle}
    (present : session.handle? position = some other) {connection another : Connection}
    (ready : later.state = .ready connection) (also : other.state = .ready another) :
    connection.identifier ≠ another.identifier := by
  have before := Nat.lt_of_le_of_lt moves.onward.identifiers left
  rcases moves.own connection ready with ⟨same, -⟩ | ⟨new, -⟩
  · exact attended.apart before identifier position (Ne.symm differ) handle other connection
      another found present same also
  · have issued := ((attended.attached other (List.mem_of_getElem? present) another
      also).registered before).1
    exact Nat.ne_of_gt (Nat.lt_of_lt_of_le issued new)

include own

theorem Attended.update : (session.update identifier later store).Attended name where
  attached := by
    intro other member connection ready
    obtain ⟨position, present⟩ := List.mem_iff_getElem?.mp member
    rcases handle?_update present with ⟨-, rfl⟩ | ⟨differ, before⟩
    · rcases moves.own connection ready with ⟨same, kept⟩ | ⟨-, new⟩
      · exact kept name (attended.attached handle (List.mem_of_getElem? found) connection same)
      · rw [own] at new
        exact new
    · have attached := attended.attached other (List.mem_of_getElem? before) connection ready
      by_cases left : store.nextConnection < Store.lastIdentifier
      · refine moves.spares connection name ?_ attached
        intro mine mineReady
        exact attended.apart (Nat.lt_of_le_of_lt moves.onward.identifiers left) identifier
          position (Ne.symm differ) handle other mine connection found before mineReady ready
      · exact attached.exhausted moves.onward left
  apart := by
    intro left first second differ one other connection another present also ready alsoReady
    rcases handle?_update present with ⟨rfl, rfl⟩ | ⟨firstDiffers, before⟩
    · rcases handle?_update also with ⟨rfl, -⟩ | ⟨secondDiffers, alsoBefore⟩
      · exact absurd rfl differ
      · exact attended.apart_of_moves found moves left secondDiffers alsoBefore ready alsoReady
    · rcases handle?_update also with ⟨rfl, rfl⟩ | ⟨-, alsoBefore⟩
      · exact (attended.apart_of_moves found moves left firstDiffers before alsoReady ready).symm
      · exact attended.apart (Nat.lt_of_le_of_lt moves.onward.identifiers left) first second
          differ one other connection another before alsoBefore ready alsoReady

end Update

/-- By induction on the history: a handle that works spares the others, and what is
sent past the handles was asked to. -/
theorem Serves.attended (served : Serves name start session) (empty : start.handles = []) :
    session.Attended name := by
  induction served with
  | nothing =>
    constructor
    · intro handle member
      rw [empty] at member
      cases member
    · intro left first second differ handle other connection another found
      rw [Session.handle?, empty] at found
      cases found
  | opened earlier options own ih => exact ih.add options
  | @settled session earlier identifier ih =>
    rw [settle]
    cases found : session.handle? identifier with
    | none => exact ih
    | some handle =>
      have own := (earlier.reaches.knows empty handle (List.mem_of_getElem? found)).1
      exact ih.update own found (handle.settle_moves (.start session.store))
  | @ran session earlier schedule program identifier ih =>
    rw [run]
    cases found : session.handle? identifier with
    | none => exact ih
    | some handle =>
      have own := (earlier.reaches.knows empty handle (List.mem_of_getElem? found)).1
      exact ih.update own found (Transaction.run_moves schedule program handle session.store)
  | @sent session earlier command own spared ih =>
    constructor
    · intro handle member connection ready
      exact (ih.attached handle member connection ready).step
        (spared handle member connection ready)
    · intro left
      exact ih.apart
        (Nat.lt_of_le_of_lt (session.store.step_onward command).identifiers left)

/-- Without faults and below the greatest version a run on a ready handle is done,
unless something had to be carried out and the handle was stranded. In any case
the handle is ready afterwards and the store is without faults. -/
theorem run_is_done_unless_stranded (empty : start.handles = [])
    (served : Serves name start session) (calm : session.store.faults = [])
    (below : (session.store.database name).version < 4294967295)
    {identifier : HandleId} {handle : Handle} {connection : Connection}
    (found : session.handle? identifier = some handle)
    (ready : handle.state = .ready connection) (schedule : Schedule)
    (program : List Statement) :
    ∃ done later, (session.run schedule program identifier).1 = some done ∧
      (session.run schedule program identifier).2.handle? identifier = some done.handle ∧
      done.handle.state = .ready later ∧
      (session.run schedule program identifier).2.store.faults = [] ∧
      (done.result = .ok () ↔ Transaction.named program handle session.store = [] ∨
        ¬handle.Strands connection (Transaction.named program handle session.store)
          session.store) := by
  have member := List.mem_of_getElem? found
  obtain ⟨own, knows⟩ := served.reaches.knows empty handle member
  have attached := (served.attended empty).attached handle member connection ready
  rw [← own] at attached below
  obtain ⟨later, settled⟩ := Transaction.run_ready ready calm attached below
  refine ⟨Transaction.run schedule program handle session.store, later, ?_, ?_, settled, ?_,
    Transaction.run_ok_iff ready calm attached below (knows connection ready)⟩
  · rw [run, found]
  · rw [run, found]
    exact List.getElem?_set_self (List.getElem?_eq_some_iff.mp found).1
  · rw [run, found]
    exact Transaction.run_calm schedule program handle session.store calm

theorem shared_served : Serves "notes" empty shared := by
  have opened : Serves "notes" empty
      ((empty.add (.new (.named "notes"))).2.add (.new (.named "notes"))).2 :=
    (Serves.nothing.opened (.named "notes") rfl).opened (.named "notes") rfl
  exact ((opened.settled 0).settled 1).ran .serial [inserting "t"] 0

theorem second_handle_is_done : ∃ connection done later,
    second.state = .ready connection ∧
    (shared.run .serial [inserting "t"] 1).1 = some done ∧
    done.handle.state = .ready later ∧ done.result = .ok () ∧
    ¬second.Strands connection (Transaction.named [inserting "t"] second shared.store)
      shared.store := by
  have there : (shared.handle? 1).isSome = true := by decide +kernel
  have found : shared.handle? 1 = some second := by
    obtain ⟨handle, found⟩ := Option.isSome_iff_exists.mp there
    rw [second, found]
    rfl
  have isReady : second.connection.isOk = true := by decide +kernel
  have calm : shared.store.faults = [] := by decide +kernel
  have below : (shared.store.database "notes").version < 4294967295 := by decide +kernel
  have works : Transaction.named [inserting "t"] second shared.store ≠ [] := by decide +kernel
  have isDone : ((shared.run .serial [inserting "t"] 1).1.map fun done => done.result.isOk) =
      some true := by decide +kernel
  cases ready : second.state with
  | opening | upgrading | errored =>
    simp only [Handle.connection, ready] at isReady
    cases isReady
  | ready connection =>
    obtain ⟨done, later, ran, -, settled, -, decides⟩ := run_is_done_unless_stranded rfl
      shared_served calm below found ready .serial [inserting "t"]
    rw [ran, Option.map_some, Option.some.injEq] at isDone
    have fine : done.result = .ok () := by
      cases result : done.result with
      | ok value => rfl
      | error cause =>
        rw [result] at isDone
        cases isDone
    exact ⟨connection, done, later, rfl, ran, settled, fine,
      (decides.mp fine).resolve_left works⟩

/-- The first handle has raised the version once more. -/
def passed : Session := (shared.run .serial [inserting "u"] 0).2

/-- The second handle asks for a version that the first one has passed. -/
theorem passed_handle_fails :
    Serves "notes" empty passed ∧ passed.store.faults = [] ∧
    (passed.store.database "notes").version < 4294967295 ∧
    ((passed.handle? 1).map fun handle => handle.connection.isOk) = some true ∧
    ((passed.run .serial [inserting "t"] 1).1.map fun done => done.result.isOk) =
      some false := by
  refine ⟨shared_served.ran .serial [inserting "u"] 0, ?_, ?_, ?_, ?_⟩
  · decide +kernel
  · decide +kernel
  · decide +kernel
  · decide +kernel

end Session

end RecordSql
