import RecordSql.Proofs.Handle.Sends
import RecordSql.Proofs.Store.Steps

/-!
How a handle's attempt to open its database ends. What it asks for in an upgrade can
always be created, so it is refused for its version alone, or because the open was
made to fail.
-/

namespace RecordSql

namespace Handle

/-- What a handle sends to open its database. -/
def opening (handle : Handle) (version? : Option UInt32) (names : List String) : Command :=
  .openDatabase handle.options.name version? fun _ _ => .createMissing names .finish

/-- A connection as a handle keeps it. -/
def keep (handle : Handle) (opened : Opened) : Connection where
  identifier := opened.connection
  database := handle.options.name
  version := opened.version
  collections := opened.collections

inductive OpeningEnds (handle : Handle) (version? : Option UInt32) (names : List String)
    (journal : Journal) : Except StoreError Connection × Handle × Journal → Prop where
  | injected (later : Journal) (pending : .openDatabase ∈ journal.store.faults)
      (store : later.store = journal.store.useFault .openDatabase) :
      OpeningEnds handle version? names journal
        (.error (.injected .openDatabase), handle, later)
  | zero (later : Journal) (calm : .openDatabase ∉ journal.store.faults)
      (zero : version? = some 0) (store : later.store = journal.store) :
      OpeningEnds handle version? names journal (.error .versionNotPositive, handle, later)
  | outdated (later : Journal) (calm : .openDatabase ∉ journal.store.faults)
      (positive : version? ≠ some 0)
      (older : journal.store.target handle.options.name version? <
        (journal.store.database handle.options.name).version)
      (store : later.store = journal.store) :
      OpeningEnds handle version? names journal
        (.error (.versionOutdated (journal.store.target handle.options.name version?)
          (journal.store.database handle.options.name).version), handle, later)
  | upgraded (after : Handle × Journal) (calm : .openDatabase ∉ journal.store.faults)
      (positive : version? ≠ some 0)
      (newer : (journal.store.database handle.options.name).version <
        journal.store.target handle.options.name version?)
      (grown : Store)
      (grows : grown = journal.store.grown handle.options.name
        (journal.store.target handle.options.name version?)
        (journal.store.upgradeRun handle.options.name version? fun _ _ =>
          .createMissing names .finish).finish.created)
      (store : after.2.store = (grown.connect handle.options.name).2) :
      OpeningEnds handle version? names journal
        (.ok (handle.keep (grown.connect handle.options.name).1), after)
  | reopened (later : Journal) (calm : .openDatabase ∉ journal.store.faults)
      (positive : version? ≠ some 0)
      (same : journal.store.target handle.options.name version? =
        (journal.store.database handle.options.name).version)
      (store : later.store = (journal.store.connect handle.options.name).2) :
      OpeningEnds handle version? names journal
        (.ok (handle.keep (journal.store.connect handle.options.name).1), handle, later)

theorem openConnection_ends (handle : Handle) (version? : Option UInt32) (names : List String)
    (journal : Journal) :
    handle.OpeningEnds version? names journal (handle.openConnection version? names journal) := by
  have ends := Store.open_ends journal.store handle.options.name version?
    fun _ _ => .createMissing names .finish
  simp only [openConnection, Journal.send, Store.step]
  generalize journal.store.openDatabase handle.options.name version?
    (fun _ _ => .createMissing names .finish) = result at ends
  cases ends with
  | injected pending => exact .injected _ pending rfl
  | zero calm zero => exact .zero _ calm zero rfl
  | outdated calm positive older => exact .outdated _ calm positive older rfl
  | aborted _ _ _ cause failure =>
    -- Creating what is missing never gives up.
    have fine := (Upgrade.createMissing_apply names (journal.store.schemaOf
      handle.options.name (journal.store.target handle.options.name version?))).1
    cases fine.symm.trans failure
  | upgraded calm positive newer success grown grows =>
    exact .upgraded _ calm positive newer grown grows rfl
  | reopened calm positive same => exact .reopened _ calm positive same rfl

theorem openConnection_ended {handle : Handle} {version? : Option UInt32} {names : List String}
    {journal : Journal} {reply : Except StoreError Connection × Handle × Journal}
    (opens : handle.openConnection version? names journal = reply) :
    handle.OpeningEnds version? names journal reply :=
  opens ▸ handle.openConnection_ends version? names journal

/-- The attempt is one exchange with the store. -/
theorem openConnection_exchange {handle : Handle} {version? : Option UInt32}
    {names : List String} {journal : Journal}
    {reply : Except StoreError Connection × Handle × Journal}
    (opens : handle.openConnection version? names journal = reply) :
    reply.2.2.store = (journal.store.step (handle.opening version? names)).2 ∧
      ∃ told : Opening, reply.1 = told.result.map handle.keep ∧
        reply.2.2.events =
          journal.events ++ [.exchanged ⟨handle.opening version? names, told⟩] := by
  subst opens
  refine ⟨rfl, (journal.store.openDatabase handle.options.name version?
    fun _ _ => .createMissing names .finish).1, ?_, rfl⟩
  simp only [openConnection, Journal.send, Store.step]
  split <;> rfl

end Handle

end RecordSql
