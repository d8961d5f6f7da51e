import RecordSql.Proofs.Session.History

/-!
No handle is ever stuck, and none leaks or loses a connection. Of the connections
that a handle has opened the store holds the present one and no other, so that no
transaction fails to begin because its connection is closed.
-/

namespace RecordSql

/-- A transaction that has a connection does not fail for want of one. -/
theorem Store.begin_usable {store : Store} {connection : Nat} {database : String}
    {scope : List String} {mode : AccessMode} {cause : StoreError}
    (reached : store.connections.get? connection = some database)
    (failed : (store.beginTransaction connection scope mode).1 = .error cause) :
    cause.kind ≠ .invalidState := by
  have ends := begin_ends store connection scope mode
  generalize store.beginTransaction connection scope mode = result at ends failed
  cases ends with
  | closed absent => cases absent.symm.trans reached
  | empty | missing =>
    cases failed
    rintro ⟨⟩
  | begun => cases failed

namespace Handle

variable {handle : Handle} {journal : Journal} {named : List String} {cause : Failure}
  {connection : Connection} {after : Handle × Journal}

/-- The connection that a handle holds on to. -/
def holding (handle : Handle) : List Nat :=
  match handle.state with
  | .ready connection => [connection.identifier]
  | _ => []

/-- By what is known of each identifier that was opened. -/
theorem Holds.filter_contains {opened : List Nat} {store : Store}
    (holds : handle.Holds opened store)
    (left : ∀ identifier ∈ opened, identifier < Store.lastIdentifier) :
    opened.filter store.connections.contains = handle.holding := by
  cases state : handle.state with
  | ready connection =>
    have own := holds.own connection state
    have held : ∀ identifier ∈ opened,
        store.connections.contains identifier = (identifier == connection.identifier) := by
      intro identifier member
      by_cases same : identifier = connection.identifier
      · have registered := holds.registered connection state (left _ own)
        rw [same, beq_self_eq_true, SortedMap.contains, registered]
        rfl
      · rw [beq_eq_false_iff_ne.mpr same, SortedMap.contains_eq_false_iff]
        apply holds.dropped identifier member (left identifier member)
        intro other ready
        cases state.symm.trans ready
        exact Ne.symm same
    rw [List.filter_congr held, List.filter_beq, (holds.distinct left).count, if_pos own, holding,
      state]
    rfl
  | opening | upgrading | errored =>
    rw [holding, state]
    apply List.filter_eq_nil_iff.mpr
    intro identifier member there
    have unready : ∀ connection, handle.state ≠ .ready connection := by
      intro connection ready
      cases state.symm.trans ready
    have dropped := holds.dropped identifier member (left identifier member)
      fun connection ready => absurd ready (unready connection)
    rw [SortedMap.contains, dropped] at there
    cases there

theorem grow_usable (failure : handle.grow connection named journal = (.error cause, after)) :
    cause.IsUsable := by
  have grows := handle.grow_ends connection named journal
  rw [failure] at grows
  cases grows with
  | exhausted => rintro told ⟨⟩
  | refused refusal reopened room opened =>
    rintro told ⟨⟩
    exact openConnection_usable opened

theorem cover_usable (usable : ∀ cause, handle.state = .errored cause → cause.IsUsable)
    (failure : handle.cover named journal = (.error cause, after)) : cause.IsUsable := by
  rw [cover] at failure
  cases state : handle.state with
  | opening | upgrading =>
    simp only [Handle.connection, state] at failure
    cases failure
    rintro told ⟨⟩
  | errored other =>
    simp only [Handle.connection, state] at failure
    cases failure
    exact usable cause state
  | ready connection =>
    simp only [Handle.connection, state] at failure
    split at failure
    · cases failure
    · exact grow_usable failure

/-- The connection over which a transaction begins is one of the store. -/
theorem cover_registered {covering : Connection}
    (registered : ∀ connection, handle.state = .ready connection →
      (journal.store.connections.get? connection.identifier).isSome = true)
    (covers : handle.cover named journal = (.ok covering, after)) :
    (after.2.store.connections.get? covering.identifier).isSome = true := by
  cases state : handle.state with
  | opening | upgrading | errored =>
    simp only [cover, Handle.connection, state] at covers
    cases covers
  | ready connection =>
    have how := cover_ok state covers
    cases how with
    | known nothing => exact registered _ state
    | grown covering reopened opened =>
      exact Option.isSome_of_mem (openConnection_ok opened).reaches

theorem beginTransaction_usable
    (registered : ∀ connection, handle.state = .ready connection →
      (journal.store.connections.get? connection.identifier).isSome = true)
    (usable : ∀ cause, handle.state = .errored cause → cause.IsUsable)
    (failure : handle.beginTransaction named journal = (.error cause, after)) :
    cause.IsUsable := by
  rw [beginTransaction] at failure
  generalize covers : handle.cover named journal = reply at failure
  obtain ⟨other | covering, covered⟩ := reply
  · cases failure
    exact cover_usable usable covers
  · obtain ⟨database, reached⟩ := Option.isSome_iff_exists.mp (cover_registered registered covers)
    simp only [Journal.send, Store.step] at failure
    generalize begins : covered.2.store.beginTransaction covering.identifier
      (covered.1.scope covering) .readWrite = answer at failure
    obtain ⟨refusal | transaction, next⟩ := answer
    · cases failure
      rintro told ⟨⟩
      exact Store.begin_usable reached (congrArg Prod.fst begins)
    · cases failure

/-- Whoever awaits a handle that was never awaited gets a connection of the store. -/
theorem openFirst_registered (unsettled : handle.state.isSettled = false)
    (ready : (handle.openFirst journal).1.state = .ready connection) :
    ((handle.openFirst journal).2.store.connections.get? connection.identifier).isSome = true := by
  rw [openFirst] at ready ⊢
  cases read : Version.read handle.options.version with
  | error fault =>
    simp only [read] at ready
    cases (errored_of_failed unsettled _).symm.trans ready
  | ok version? =>
    simp only [read] at ready ⊢
    have still := handle.openConnection_unsettled unsettled version?
      handle.options.firstCollections journal
    generalize opened : handle.openConnection version? handle.options.firstCollections
      journal = reply at ready still
    obtain ⟨refusal | first, reopened⟩ := reply
    · cases (errored_of_failed still _).symm.trans ready
    · cases (opened_ready unsettled opened).symm.trans ready
      exact Option.isSome_of_mem (openConnection_ok opened).reaches

end Handle

namespace Session

/-- In every history every handle is ready or errored, unless nobody has awaited it
yet. A ready one knows nothing that is not true of its database. As long as a handle
did not get the identifier that is given out again and again, its connection is
registered, the store holds no other that it has opened, and nobody who begins a
transaction on it is told that it is closed. -/
theorem every_handle_keeps_its_connection (acts : List Act) {identifier : HandleId}
    {handle : Handle} (found : (empty.performAll acts).handle? identifier = some handle) :
    (handle.state.isSettled = true ∨
      (handle = .new handle.options ∧ empty.opened identifier acts = [])) ∧
    (handle.settle (.start (empty.performAll acts).store)).1.state.isSettled = true ∧
    (∀ connection, handle.state = .ready connection →
      connection.version ≤
          ((empty.performAll acts).store.database handle.options.name).version ∧
        ∀ collection ∈ connection.collections,
          ((empty.performAll acts).store.collection? handle.options.name collection).isSome =
            true) ∧
    ((∀ opened ∈ empty.opened identifier acts, opened < Store.lastIdentifier) →
      (∀ connection, handle.state = .ready connection →
        (empty.performAll acts).store.connections.get? connection.identifier =
          some handle.options.name) ∧
      (empty.opened identifier acts).filter (empty.performAll acts).store.connections.contains =
        handle.holding ∧
      ∀ named cause after,
        (handle.settle (.start (empty.performAll acts).store)).1.beginTransaction named
          (handle.settle (.start (empty.performAll acts).store)).2 = (.error cause, after) →
        cause.IsUsable) := by
  have tended := tended_empty.performAll acts
  generalize empty.performAll acts = session at tended found ⊢
  have holds := tended.holds identifier handle found
  have settled := tended.settled identifier handle found
  rw [List.nil_append] at holds settled
  refine ⟨settled, handle.settle_isSettled _, ?_, ?_⟩
  · intro connection ready
    have remembers := holds.remembers connection ready
    exact ⟨remembers.older, remembers.present⟩
  · intro left
    have registered : ∀ connection, handle.state = .ready connection →
        session.store.connections.get? connection.identifier = some handle.options.name :=
      fun connection ready =>
        holds.registered connection ready (left _ (holds.own connection ready))
    refine ⟨registered, holds.filter_contains left, ?_⟩
    intro named cause after failure
    have start : handle.Holds (empty.opened identifier acts ++
        Event.opened (Journal.start session.store).events) session.store :=
      (List.append_nil (empty.opened identifier acts)).symm ▸ holds
    have awaited := (handle.settle_steps (.start session.store)).holds start
    refine Handle.beginTransaction_usable ?_ awaited.usable failure
    intro connection ready
    cases state : handle.state.isSettled with
    | true =>
      rw [Handle.settle, if_pos state] at ready ⊢
      exact Option.isSome_of_mem (registered connection ready)
    | false =>
      rw [Handle.settle, if_neg (by simp [state])] at ready ⊢
      exact Handle.openFirst_registered state ready

/-- The second transaction needs a collection that is not there, and the first
attempt to open the database again is made to fail. -/
def fallenBack : List Act :=
  [.opens (.named "notes"), .runs .serial [inserting "t"] 0,
    .sends (.inject .openDatabase) (Command.inject_spares .openDatabase),
    .runs .serial [inserting "u"] 0]

theorem fallen_back_handle_keeps_its_connection : ∃ handle,
    (empty.performAll fallenBack).handle? 0 = some handle ∧
    empty.opened 0 fallenBack = [0, 1, 2] ∧
    [0, 1, 2].filter (empty.performAll fallenBack).store.connections.contains =
      handle.holding ∧
    ∃ connection, handle.state = .ready connection ∧
      (empty.performAll fallenBack).store.connections.get? connection.identifier =
        some handle.options.name := by
  have there : ((empty.performAll fallenBack).handle? 0).isSome = true := by decide +kernel
  have isReady : ((empty.performAll fallenBack).handle? 0).any (·.connection.isOk) = true := by
    decide +kernel
  have opened : empty.opened 0 fallenBack = [0, 1, 2] := by decide +kernel
  obtain ⟨handle, found⟩ := Option.isSome_iff_exists.mp there
  obtain ⟨-, -, -, kept⟩ := every_handle_keeps_its_connection fallenBack found
  rw [opened] at kept
  obtain ⟨registered, held, -⟩ := kept (by decide)
  rw [found] at isReady
  cases state : handle.state with
  | ready connection =>
    exact ⟨handle, found, opened, held, connection, state, registered connection state⟩
  | opening | upgrading | errored =>
    simp only [Option.any, Handle.connection, state] at isReady
    cases isReady

end Session

end RecordSql
