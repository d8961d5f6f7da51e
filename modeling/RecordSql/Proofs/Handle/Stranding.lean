import RecordSql.Proofs.Handle.Attachment
import RecordSql.Proofs.Handle.Coverage

/-!
When a ready handle cannot begin a transaction. If no open is made to fail there
are few reasons: the version that the handle asks for has been passed by others,
or they have raised the database to just that version and created nothing that
the handle works on. Either way the handle is ready afterwards.
-/

namespace RecordSql

/-- Opening a database as it is never asks for an older version. -/
theorem Store.not_target_none_lt (store : Store) (name : String) :
    ¬store.target name none < (store.database name).version := by
  simp only [target, Option.getD_none, UInt32.not_lt]
  change _ ≤ if _ ≤ _ then _ else _
  split
  · assumption
  · exact UInt32.le_refl _

theorem HandleState.after_opened {state : HandleState} (unsettled : state.isSettled = false)
    (connection : Connection) : state.after (.opened connection) = .ready connection := by
  cases state with
  | opening | upgrading => rfl
  | ready | errored => cases unsettled

namespace Handle

/-- In the fixed mode a handle works on one collection alone. -/
def WorksOn (handle : Handle) (collection : String) : Prop :=
  handle.options.mode = .fixed → collection = fixedCollection

/-- A ready handle that cannot begin a transaction over what is named. -/
inductive Strands (handle : Handle) (connection : Connection) (named : List String)
    (store : Store) : Prop where
  /-- Identifiers are used up, and the handle has lost its own to somebody else. -/
  | cut (nothing : handle.missing connection named = [])
      (exhausted : Store.lastIdentifier ≤ store.nextConnection)
      (absent : store.connections.get? connection.identifier = none)
  /-- Others have raised the version beyond the one that the handle will ask for. -/
  | outdated (something : handle.missing connection named ≠ [])
      (passed : connection.version + 1 < (store.database handle.options.name).version)
  /-- Others have raised the version to that one, so that nothing is created, and
  what the handle works on is not there. -/
  | uncovered (something : handle.missing connection named ≠ [])
      (taken : (store.database handle.options.name).version = connection.version + 1)
      (absent : ∀ collection, handle.WorksOn collection →
        store.collection? handle.options.name collection = none)

section Calm

variable {handle : Handle} {journal : Journal} {version? : Option UInt32} {names : List String}

theorem openConnection_unsettled (unsettled : handle.state.isSettled = false)
    (version? : Option UInt32) (names : List String) (journal : Journal) :
    (handle.openConnection version? names journal).2.1.state.isSettled = false := by
  simp only [openConnection]
  split
  · simp only [move]
    cases state : handle.state with
    | opening | upgrading => rfl
    | ready | errored =>
      rw [state] at unsettled
      cases unsettled
  · exact unsettled

theorem opened_ready {connection : Connection} {after : Handle × Journal}
    (unsettled : handle.state.isSettled = false)
    (success : handle.openConnection version? names journal = (.ok connection, after)) :
    (after.1.move (.opened connection)).state = .ready connection := by
  have still := handle.openConnection_unsettled unsettled version? names journal
  rw [success] at still
  exact HandleState.after_opened still connection

/-- If it is not made to fail, a database opens at every version that is not older
than the stored one. -/
theorem openConnection_calm (calm : .openDatabase ∉ journal.store.faults)
    (positive : version? ≠ some 0)
    (recent : ¬journal.store.target handle.options.name version? <
      (journal.store.database handle.options.name).version) :
    ∃ connection after, handle.openConnection version? names journal =
      (.ok connection, after) := by
  have ends := handle.openConnection_ends version? names journal
  generalize handle.openConnection version? names journal = reply at ends ⊢
  cases ends with
  | injected _ pending => exact absurd pending calm
  | zero _ _ zero => exact absurd zero positive
  | outdated _ _ _ older => exact absurd older recent
  | upgraded | reopened => exact ⟨_, _, rfl⟩

theorem openConnection_outdated (calm : .openDatabase ∉ journal.store.faults)
    (positive : version? ≠ some 0)
    (older : journal.store.target handle.options.name version? <
      (journal.store.database handle.options.name).version) :
    ∃ cause later, handle.openConnection version? names journal =
      (.error cause, handle, later) ∧ later.store = journal.store := by
  have ends := handle.openConnection_ends version? names journal
  generalize handle.openConnection version? names journal = reply at ends ⊢
  cases ends with
  | injected _ pending => exact absurd pending calm
  | zero _ _ zero => exact absurd zero positive
  | outdated later _ _ _ store => exact ⟨_, later, rfl, store⟩
  | upgraded _ _ _ newer => exact absurd (UInt32.lt_trans older newer) (UInt32.lt_irrefl _)
  | reopened _ _ _ same =>
    rw [same] at older
    exact absurd older (UInt32.lt_irrefl _)

theorem fallBack_ready (calm : .openDatabase ∉ journal.store.faults)
    (unsettled : handle.state.isSettled = false) :
    ∃ connection, (handle.fallBack journal).1.state = .ready connection := by
  obtain ⟨connection, after, opened⟩ : ∃ connection after,
      handle.openConnection none [] journal = (.ok connection, after) :=
    openConnection_calm calm (by rintro ⟨⟩) (journal.store.not_target_none_lt handle.options.name)
  refine ⟨connection, ?_⟩
  rw [fallBack, opened]
  exact opened_ready unsettled opened

end Calm

section Begin

variable {handle : Handle} {journal : Journal} {connection covering : Connection}
  {named : List String}

theorem cover_known (ready : handle.state = .ready connection)
    (nothing : handle.missing connection named = []) :
    handle.cover named journal = (.ok connection, handle, journal) := by
  simp only [cover, Handle.connection, ready, nothing]

/-- A handle that does not know all that is needed opens its database again. -/
theorem cover_unknown (ready : handle.state = .ready connection)
    (something : handle.missing connection named ≠ []) :
    handle.cover named journal =
      handle.grow connection (handle.missing connection named) journal := by
  simp only [cover, Handle.connection, ready]

theorem positive_next (left : connection.version < 4294967295) :
    some (connection.version + 1) ≠ some 0 := by
  intro zero
  have same := congrArg UInt32.toNat (Option.some.inj zero)
  rw [UInt32.lt_iff_toNat_lt] at left
  rw [UInt32.toNat_add] at same
  simp only [UInt32.reduceToNat] at left same
  omega

section Unknown

variable (ready : handle.state = .ready connection) (calm : .openDatabase ∉ journal.store.faults)
  (left : connection.version < 4294967295)
  (something : handle.missing connection named ≠ [])

include ready calm left something

theorem cover_grown (recent : ¬connection.version + 1 <
      (journal.store.database handle.options.name).version) :
    ∃ covering reopened, (handle.move .reopening).openConnection
        (some (connection.version + 1)) (handle.missing connection named)
        (closed connection journal) = (.ok covering, reopened) ∧
      handle.cover named journal =
        (.ok covering, reopened.1.move (.opened covering), reopened.2) := by
  obtain ⟨covering, reopened, opened⟩ :
      ∃ covering reopened, (handle.move .reopening).openConnection
        (some (connection.version + 1)) (handle.missing connection named)
        (closed connection journal) = (.ok covering, reopened) :=
    openConnection_calm calm (positive_next left) recent
  refine ⟨covering, reopened, opened, ?_⟩
  simp only [closed] at opened
  rw [cover_unknown ready something, grow, if_neg (UInt32.ne_of_lt left)]
  simp only [opened]

theorem cover_outdated (passed : connection.version + 1 <
      (journal.store.database handle.options.name).version) :
    ∃ cause later other, handle.cover named journal = (.error cause, later) ∧
      later.1.state = .ready other := by
  obtain ⟨cause, later, refused, same⟩ :
      ∃ cause later, (handle.move .reopening).openConnection
        (some (connection.version + 1)) (handle.missing connection named)
        (closed connection journal) = (.error cause, handle.move .reopening, later) ∧
      later.store = (closed connection journal).store :=
    openConnection_outdated calm (positive_next left) passed
  have quiet : .openDatabase ∉ later.store.faults := by
    rw [same]
    exact calm
  have unsettled : (handle.move .reopening).state.isSettled = false := by
    simp only [move, ready]
    rfl
  obtain ⟨other, settled⟩ := fallBack_ready quiet unsettled
  refine ⟨.transactionFailed cause, (handle.move .reopening).fallBack later, other, ?_, settled⟩
  simp only [closed] at refused
  rw [cover_unknown ready something, grow, if_neg (UInt32.ne_of_lt left)]
  simp only [refused]

end Unknown

theorem worksOn_of_mem_scope {collection : String}
    (member : collection ∈ handle.scope connection) : handle.WorksOn collection := by
  intro fixed
  simp only [scope, fixed] at member
  exact List.mem_singleton.mp member

theorem worksOn_of_mem_missing {collection : String}
    (member : collection ∈ handle.missing connection named) : handle.WorksOn collection := by
  intro fixed
  have needs := (List.mem_filter.mp member).1
  simp only [needed, fixed] at needs
  exact List.mem_singleton.mp needs

theorem beginTransaction_isOk {covered : Handle × Journal}
    (covers : handle.cover named journal = (.ok covering, covered)) :
    (handle.beginTransaction named journal).1.isOk =
      (covered.2.store.beginTransaction covering.identifier
        (handle.scope covering) .readWrite).1.isOk := by
  have options := (handle.cover_continues named journal).options
  rw [covers] at options
  have limited : covered.1.scope covering = handle.scope covering := by
    simp only [scope]
    rw [options]
  simp only [beginTransaction, covers, limited, Journal.send, Store.step]
  generalize (covered.2.store.beginTransaction covering.identifier
    (handle.scope covering) .readWrite).1 = reply
  cases reply <;> rfl

/-- Beginning does not move the handle further than covering does. -/
theorem beginTransaction_handle (handle : Handle) (named : List String) (journal : Journal) :
    (handle.beginTransaction named journal).2.1 = (handle.cover named journal).2.1 := by
  rw [beginTransaction]
  generalize handle.cover named journal = reply
  obtain ⟨cause | covering, covered⟩ := reply <;> rfl

/-- A handle that knows all that is needed begins with the connection it has. -/
theorem begin_known_iff (ready : handle.state = .ready connection)
    (knows : connection.Knows handle.options.name journal.store) (needs : named ≠ [])
    (nothing : handle.missing connection named = []) :
    (handle.beginTransaction named journal).1.isOk = true ↔
      ∃ database, journal.store.connections.get? connection.identifier = some database := by
  have known : ∀ collection ∈ handle.needed named, collection ∈ connection.collections :=
    fun collection needs => known_of_missing_eq_nil needs nothing
  rw [beginTransaction_isOk (cover_known ready nothing), Store.begin_isOk_iff]
  constructor
  · rintro ⟨database, reached, -⟩
    exact ⟨database, reached⟩
  · rintro ⟨database, reached⟩
    refine ⟨database, reached, ?_, ?_⟩
    · cases mode : handle.options.mode with
      | fixed => simp [scope, mode]
      | perStatement =>
        obtain ⟨collection, member⟩ := List.exists_mem_of_ne_nil named needs
        simp only [scope, needed, mode] at known ⊢
        exact List.ne_nil_of_mem (known collection member)
    · intro collection member
      rw [knows.reaches database reached]
      apply knows.present
      cases mode : handle.options.mode with
      | fixed =>
        simp only [scope, needed, mode] at known member
        exact known collection member
      | perStatement =>
        simp only [scope, mode] at member
        exact member

/-- A connection that lists what is there begins unless nothing is there to work on. -/
theorem begin_grown_iff {covered : Handle × Journal}
    (covers : handle.cover named journal = (.ok covering, covered))
    (reaches : covered.2.store.connections.get? covering.identifier = some handle.options.name)
    (lists : ∀ collection, collection ∈ covering.collections ↔
      (covered.2.store.collection? handle.options.name collection).isSome = true) :
    (handle.beginTransaction named journal).1.isOk = true ↔
      ∃ collection, handle.WorksOn collection ∧
        (covered.2.store.collection? handle.options.name collection).isSome = true := by
  rw [beginTransaction_isOk covers, Store.begin_isOk_iff]
  constructor
  · rintro ⟨database, reached, something, present⟩
    cases reaches.symm.trans reached
    obtain ⟨collection, member⟩ := List.exists_mem_of_ne_nil _ something
    exact ⟨collection, worksOn_of_mem_scope member, present collection member⟩
  · rintro ⟨collection, works, there⟩
    refine ⟨handle.options.name, reaches, ?_, ?_⟩
    · cases mode : handle.options.mode with
      | fixed => simp [scope, mode]
      | perStatement =>
        simp only [scope, mode]
        exact List.ne_nil_of_mem ((lists collection).mpr there)
    · intro other member
      cases mode : handle.options.mode with
      | fixed =>
        rw [worksOn_of_mem_scope member mode, ← works mode]
        exact there
      | perStatement =>
        simp only [scope, mode] at member
        exact (lists other).mp member

section Ready

variable (ready : handle.state = .ready connection) (calm : .openDatabase ∉ journal.store.faults)
  (attached : connection.Attached handle.options.name journal.store)
  (below : (journal.store.database handle.options.name).version < 4294967295)

include ready calm attached below

/-- If no open is made to fail, a ready handle begins a transaction exactly if it is
not stranded. -/
theorem begin_isOk_iff (knows : connection.Knows handle.options.name journal.store)
    (needs : named ≠ []) :
    (handle.beginTransaction named journal).1.isOk = true ↔
      ¬handle.Strands connection named journal.store := by
  have left := UInt32.lt_of_le_of_lt attached.older below
  by_cases nothing : handle.missing connection named = []
  · rw [begin_known_iff ready knows needs nothing]
    constructor
    · rintro ⟨database, reached⟩ strands
      cases strands with
      | cut _ _ absent => cases absent.symm.trans reached
      | outdated something | uncovered something => exact something nothing
    · intro fine
      cases reached : journal.store.connections.get? connection.identifier with
      | some database => exact ⟨database, rfl⟩
      | none =>
        refine absurd (.cut nothing ?_ reached) fine
        apply Nat.not_lt.mp
        intro unused
        cases reached.symm.trans (attached.registered unused).2
  · by_cases passed : connection.version + 1 <
        (journal.store.database handle.options.name).version
    · obtain ⟨cause, later, other, covers, -⟩ := cover_outdated ready calm left nothing passed
      apply iff_of_false
      · rw [beginTransaction, covers]
        rintro ⟨⟩
      · exact fun fine => fine (.outdated nothing passed)
    · obtain ⟨covering, reopened, opened, covers⟩ :=
        cover_grown ready calm left nothing passed
      have facts := openConnection_ok opened
      rw [begin_grown_iff covers facts.reaches facts.lists]
      by_cases newer : (journal.store.database handle.options.name).version <
          connection.version + 1
      · -- The upgrade is carried out and creates what is missing.
        apply iff_of_true
        · obtain ⟨collection, member⟩ := List.exists_mem_of_ne_nil _ nothing
          refine ⟨collection, worksOn_of_mem_missing member, ?_⟩
          have created := facts.upgraded newer collection
          rw [if_pos member] at created
          refine (congrArg Option.isSome created).trans ?_
          cases (closed connection journal).store.collection? _ collection <;> rfl
        · rintro (⟨known⟩ | ⟨-, older⟩ | ⟨-, taken⟩)
          · exact nothing known
          · exact passed older
          · rw [taken] at newer
            exact UInt32.lt_irrefl _ newer
      · -- Somebody else has raised the version to this one, and nothing is created.
        have taken : (journal.store.database handle.options.name).version =
            connection.version + 1 :=
          UInt32.le_antisymm (UInt32.not_lt.mp passed) (UInt32.not_lt.mp newer)
        have same : ∀ collection, reopened.2.store.collection? handle.options.name collection =
            journal.store.collection? handle.options.name collection :=
          facts.reopened taken.symm
        constructor
        · rintro ⟨collection, works, there⟩ strands
          cases strands with
          | cut known => exact nothing known
          | outdated _ older => exact passed older
          | uncovered _ _ absent =>
            have present := (congrArg Option.isSome (same collection)).symm.trans there
            rw [absent collection works] at present
            cases present
        · intro fine
          apply Classical.byContradiction
          intro without
          refine fine (.uncovered nothing taken fun collection works => ?_)
          refine (same collection).symm.trans ?_
          exact Option.not_isSome_iff_eq_none.mp fun there => without ⟨collection, works, there⟩

/-- Whether a transaction begins or not, the handle is ready afterwards. -/
theorem begin_ready : ∃ later, (handle.beginTransaction named journal).2.1.state =
    .ready later := by
  have left := UInt32.lt_of_le_of_lt attached.older below
  rw [beginTransaction_handle]
  by_cases nothing : handle.missing connection named = []
  · rw [cover_known ready nothing]
    exact ⟨connection, ready⟩
  · by_cases passed : connection.version + 1 <
        (journal.store.database handle.options.name).version
    · obtain ⟨cause, later, other, covers, settled⟩ :=
        cover_outdated ready calm left nothing passed
      rw [covers]
      exact ⟨other, settled⟩
    · obtain ⟨covering, reopened, opened, covers⟩ :=
        cover_grown ready calm left nothing passed
      rw [covers]
      refine ⟨covering, opened_ready ?_ opened⟩
      simp only [move, ready]
      rfl

end Ready

end Begin

end Handle

end RecordSql
