import RecordSql.Proofs.Handle.Conduct

/-!
The connections that a handle has opened. It closes the one it has before it opens
another, so of all that it ever opened the store holds its present one alone. No
other handle comes in between, for identifiers are given out in turn and every
handle closes only its own. This is so as long as they last: the greatest
identifier, once reached, is given out again and again.
-/

namespace RecordSql

/-- The identifiers of the connections that were opened, in order. -/
def Event.opened (events : List Event) : List Nat :=
  events.filterMap fun
    | .exchanged exchange => exchange.opened?
    | _ => none

namespace Event

@[simp]
theorem opened_append (left right : List Event) :
    opened (left ++ right) = opened left ++ opened right := List.filterMap_append

theorem opened_silent {events : List Event}
    (silent : ∀ event ∈ events, event.isExchange = false) : opened events = [] := by
  apply List.filterMap_eq_nil_iff.mpr
  intro event member
  cases event with
  | exchanged exchange => cases silent _ member
  | _ => rfl

theorem opened_used (journal : Journal) {command : Command} (use : command.IsUse) :
    opened (journal.send command).2.events = opened journal.events := by
  refine (opened_append _ _).trans ?_
  cases command with
  | beginTransaction | request | commit => exact List.append_nil _
  | openDatabase | close | abort | inject | snapshot => cases use

theorem opened_closed (journal : Journal) (connection : Connection) :
    opened (Handle.closed connection journal).events = opened journal.events :=
  (opened_append _ _).trans (List.append_nil _)

end Event

/-- What a connection tells of its database is still true, if no longer all of it. -/
structure Connection.Remembers (connection : Connection) (name : String) (store : Store) :
    Prop where
  older : connection.version ≤ (store.database name).version
  present : ∀ collection ∈ connection.collections,
    (store.collection? name collection).isSome = true

theorem Connection.Remembers.step {connection : Connection} {name : String} {store : Store}
    (remembers : connection.Remembers name store) (command : Command) :
    connection.Remembers name (store.step command).2 where
  older := UInt32.le_trans remembers.older ((store.step_onward command).versions name)
  present := fun collection member =>
    store.step_collection_isSome command name collection (remembers.present collection member)

namespace Handle

/-- A handle that has opened connections, and what has become of them. -/
structure Holds (handle : Handle) (opened : List Nat) (store : Store) : Prop where
  issued : ∀ identifier ∈ opened, identifier < Store.lastIdentifier →
    identifier < store.nextConnection
  own : ∀ connection, handle.state = .ready connection → connection.identifier ∈ opened
  registered : ∀ connection, handle.state = .ready connection →
    connection.identifier < Store.lastIdentifier →
    store.connections.get? connection.identifier = some handle.options.name
  dropped : ∀ identifier ∈ opened, identifier < Store.lastIdentifier →
    (∀ connection, handle.state = .ready connection → connection.identifier ≠ identifier) →
    store.connections.get? identifier = none
  distinct : (∀ identifier ∈ opened, identifier < Store.lastIdentifier) → opened.Nodup
  remembers : ∀ connection, handle.state = .ready connection →
    connection.Remembers handle.options.name store
  usable : ∀ cause, handle.state = .errored cause → cause.IsUsable

/-- Two handles have no identifier in common but the one that is given out again. -/
def Apart (left right : List Nat) : Prop :=
  ∀ identifier ∈ left, identifier ∈ right → ¬identifier < Store.lastIdentifier

theorem Apart.symm {left right : List Nat} (apart : Apart left right) : Apart right left :=
  fun identifier first second => apart identifier second first

variable {handle : Handle} {opened : List Nat} {store : Store}

theorem holds_new (options : Options) (store : Store) : (new options).Holds [] store where
  issued := by rintro identifier ⟨⟩
  own := by rintro connection ⟨⟩
  registered := by rintro connection ⟨⟩
  dropped := by rintro identifier ⟨⟩
  distinct := fun _ => .nil
  remembers := by rintro connection ⟨⟩
  usable := by rintro cause ⟨⟩

/-- Whatever is sent, unless it closes a connection of the handle. -/
theorem Holds.step (holds : handle.Holds opened store) {command : Command}
    (spared : ∀ identifier ∈ opened, identifier < Store.lastIdentifier →
      command ≠ .close identifier) :
    handle.Holds opened (store.step command).2 where
  issued := fun identifier member below =>
    Nat.lt_of_lt_of_le (holds.issued identifier member below)
      (store.step_onward command).identifiers
  own := holds.own
  registered := by
    intro connection ready below
    have mine := holds.own connection ready
    rw [store.step_connection_eq (spared _ mine below) (holds.issued _ mine below)]
    exact holds.registered connection ready below
  dropped := by
    intro identifier member below other
    rw [store.step_connection_eq (spared _ member below) (holds.issued _ member below)]
    exact holds.dropped identifier member below other
  distinct := holds.distinct
  remembers := fun connection ready => (holds.remembers connection ready).step command
  usable := holds.usable

/-- A handle without a connection goes on without one. -/
theorem Holds.unready {later : Handle} (holds : handle.Holds opened store)
    (before : ∀ connection, handle.state ≠ .ready connection)
    (after : ∀ connection, later.state ≠ .ready connection)
    (usable : ∀ cause, later.state = .errored cause → cause.IsUsable) :
    later.Holds opened store where
  issued := holds.issued
  own := fun connection ready => absurd ready (after connection)
  registered := fun connection ready => absurd ready (after connection)
  dropped := fun identifier member below _ =>
    holds.dropped identifier member below fun connection ready => absurd ready (before connection)
  distinct := holds.distinct
  remembers := fun connection ready => absurd ready (after connection)
  usable := usable

theorem Holds.closed {connection : Connection} {journal : Journal}
    (holds : handle.Holds opened journal.store) (ready : handle.state = .ready connection) :
    (handle.move .reopening).Holds opened (Handle.closed connection journal).store where
  issued := holds.issued
  own := by
    intro other reopened
    simp only [move, ready] at reopened
    cases reopened
  registered := by
    intro other reopened
    simp only [move, ready] at reopened
    cases reopened
  dropped := by
    intro identifier member below _
    change (journal.store.connections.erase connection.identifier).get? identifier = none
    by_cases same : identifier = connection.identifier
    · rw [same]
      exact SortedMap.get?_erase_self _ _
    · rw [SortedMap.get?_erase_of_ne _ same]
      apply holds.dropped identifier member below
      intro own mine
      cases ready.symm.trans mine
      exact Ne.symm same
  distinct := holds.distinct
  remembers := by
    intro other reopened
    simp only [move, ready] at reopened
    cases reopened
  usable := by
    intro cause errored
    simp only [move, ready] at errored
    cases errored

theorem openConnection_opened {journal : Journal} {version? : Option UInt32}
    {names : List String} {reply : Except StoreError Connection × Handle × Journal}
    (opens : handle.openConnection version? names journal = reply) :
    Event.opened reply.2.2.events = Event.opened journal.events ++
      (reply.1.toOption.map Connection.identifier).toList := by
  obtain ⟨-, told, kept, events⟩ := openConnection_exchange opens
  rw [events, Event.opened_append, kept]
  obtain ⟨result, upgrade?⟩ := told
  cases result <;> rfl

/-- A connection gets the next identifier, under which it is registered. -/
theorem openConnection_registers {journal : Journal} {version? : Option UInt32}
    {names : List String} {connection : Connection} {after : Handle × Journal}
    (success : handle.openConnection version? names journal = (.ok connection, after)) :
    connection.identifier = journal.store.nextConnection ∧
      after.2.store.connections.get? connection.identifier = some handle.options.name ∧
      after.2.store.nextConnection = Store.following journal.store.nextConnection := by
  cases openConnection_ended success with
  | upgraded after calm positive newer grown grows store =>
    rw [store, grows]
    exact ⟨rfl, SortedMap.get?_insert_self _ _ _, rfl⟩
  | reopened later calm positive same store =>
    rw [store]
    exact ⟨rfl, SortedMap.get?_insert_self _ _ _, rfl⟩

theorem Holds.opens {journal : Journal} {version? : Option UInt32} {names : List String}
    {connection : Connection} {after : Handle × Journal}
    (holds : handle.Holds opened journal.store) (unsettled : handle.state.isSettled = false)
    (success : handle.openConnection version? names journal = (.ok connection, after)) :
    (after.1.move (.opened connection)).Holds (opened ++ [connection.identifier])
      after.2.store := by
  obtain ⟨next, reached, following⟩ := openConnection_registers success
  have options := (handle.openConnection_continues version? names journal).options
  rw [success] at options
  have ready := opened_ready unsettled success
  have same : ∀ other, (after.1.move (.opened connection)).state = .ready other →
      other = connection :=
    fun other also => (HandleState.ready.inj (ready.symm.trans also)).symm
  have kept : handle.Holds opened (journal.store.step (handle.opening version? names)).2 :=
    holds.step (by rintro identifier - - ⟨⟩)
  rw [← (openConnection_exchange success).1] at kept
  constructor
  case issued =>
    intro identifier member below
    rcases List.mem_append.mp member with before | new
    · exact kept.issued identifier before below
    · rw [List.mem_singleton.mp new, next] at below ⊢
      rw [following]
      exact Store.lt_following below
  case own =>
    intro other also
    rw [same other also]
    exact List.mem_append_right _ (List.mem_singleton_self _)
  case registered =>
    intro other also _
    rw [same other also]
    exact reached.trans (congrArg (fun options => some options.name) options).symm
  case dropped =>
    intro identifier member below foreign
    rcases List.mem_append.mp member with before | new
    · -- Until now the handle had no connection that it could still hold.
      apply kept.dropped identifier before below
      intro own settled
      rw [settled] at unsettled
      cases unsettled
    · exact absurd (List.mem_singleton.mp new).symm (foreign connection ready)
  case distinct =>
    intro below
    have fresh : connection.identifier ∉ opened := by
      intro before
      have earlier := holds.issued _ before (below _ (List.mem_append_left _ before))
      rw [next] at earlier
      exact Nat.lt_irrefl _ earlier
    have distinct := holds.distinct fun identifier member =>
      below identifier (List.mem_append_left _ member)
    refine List.nodup_append.mpr ⟨distinct, by simp, ?_⟩
    intro identifier before other new equal
    rw [List.mem_singleton.mp new] at equal
    exact fresh (equal ▸ before)
  case remembers =>
    intro other also
    rw [same other also]
    have facts := openConnection_ok success
    change connection.Remembers after.1.options.name after.2.store
    rw [options]
    exact ⟨(openConnection_attached success).2.older,
      fun collection member => (facts.lists collection).mp member⟩
  case usable =>
    intro cause errored
    cases ready.symm.trans errored

section Steps

variable {later : Handle} {journal after : Journal} {earlier : List Nat}

theorem Step.options (step : Step (handle, journal) (later, after)) :
    later.options = handle.options := by
  generalize reached : (later, after) = target at step
  cases step with
  | @opened _ _ _ version? names connection result success =>
    have continued := (handle.openConnection_continues version? names journal).options
    rw [success] at continued
    cases reached
    exact continued
  | @refused _ _ _ version? names cause result failure =>
    have continued := (handle.openConnection_continues version? names journal).options
    rw [failure] at continued
    cases reached
    exact continued
  | gaveUp | closed | used | noted | numbered =>
    cases reached
    rfl

theorem not_ready_of_unsettled (unsettled : handle.state.isSettled = false)
    (connection : Connection) : handle.state ≠ .ready connection := by
  intro ready
  rw [ready] at unsettled
  cases unsettled

theorem not_errored_of_unsettled (unsettled : handle.state.isSettled = false)
    (cause : Failure) : handle.state ≠ .errored cause := by
  intro errored
  rw [errored] at unsettled
  cases unsettled

/-- By the kind of step: only opening and closing change what a handle holds. -/
theorem Step.holds (step : Step (handle, journal) (later, after))
    (holds : handle.Holds (earlier ++ Event.opened journal.events) journal.store) :
    later.Holds (earlier ++ Event.opened after.events) after.store := by
  generalize reached : (later, after) = target at step
  cases step with
  | @opened _ _ unsettled version? names connection result success =>
    cases reached
    rw [openConnection_opened success, ← List.append_assoc]
    exact holds.opens unsettled success
  | @refused _ _ unsettled version? names cause result failure =>
    cases reached
    have still := handle.openConnection_unsettled unsettled version? names journal
    rw [failure] at still
    have kept : handle.Holds (earlier ++ Event.opened journal.events)
        (journal.store.step (handle.opening version? names)).2 :=
      holds.step (by rintro identifier - - ⟨⟩)
    rw [openConnection_opened failure, (openConnection_exchange failure).1]
    change later.Holds (earlier ++ (Event.opened journal.events ++ [])) _
    rw [List.append_nil]
    exact kept.unready (not_ready_of_unsettled unsettled) (not_ready_of_unsettled still)
      fun cause errored => absurd errored (not_errored_of_unsettled still cause)
  | @gaveUp _ _ unsettled cause usable =>
    cases reached
    have errored := errored_of_failed unsettled cause
    refine holds.unready (not_ready_of_unsettled unsettled) ?_ ?_
    · intro connection ready
      cases errored.symm.trans ready
    · intro other also
      cases errored.symm.trans also
      exact usable
  | @closed _ _ connection ready =>
    cases reached
    rw [Event.opened_closed]
    exact holds.closed ready
  | @used _ _ command use =>
    cases reached
    rw [Event.opened_used journal use]
    apply holds.step
    rintro identifier - - rfl
    cases use
  | @noted _ _ events silent =>
    cases reached
    change handle.Holds (earlier ++ Event.opened (journal.events ++ events)) journal.store
    rw [Event.opened_append, Event.opened_silent silent, List.append_nil]
    exact holds
  | numbered =>
    cases reached
    exact ⟨holds.issued, holds.own, holds.registered, holds.dropped, holds.distinct,
      holds.remembers, holds.usable⟩

/-- What one handle does leaves the connections of another one alone. -/
theorem Step.spares {other : Handle} {others : List Nat}
    (step : Step (handle, journal) (later, after))
    (holds : handle.Holds (earlier ++ Event.opened journal.events) journal.store)
    (foreign : other.Holds others journal.store)
    (apart : Apart (earlier ++ Event.opened journal.events) others) :
    other.Holds others after.store ∧ Apart (earlier ++ Event.opened after.events) others := by
  have opening : ∀ version? names, other.Holds others
      (journal.store.step (handle.opening version? names)).2 :=
    fun version? names => foreign.step (by rintro identifier - - ⟨⟩)
  generalize reached : (later, after) = target at step
  cases step with
  | @opened _ _ unsettled version? names connection result success =>
    cases reached
    obtain ⟨next, -, -⟩ := openConnection_registers success
    rw [(openConnection_exchange success).1, openConnection_opened success,
      ← List.append_assoc]
    refine ⟨opening version? names, ?_⟩
    intro identifier mine theirs below
    rcases List.mem_append.mp mine with before | new
    · exact apart identifier before theirs below
    · -- The next identifier was given to nobody before.
      rw [List.mem_singleton.mp new, next] at theirs below
      exact Nat.lt_irrefl _ (foreign.issued _ theirs below)
  | @refused _ _ unsettled version? names cause result failure =>
    cases reached
    rw [(openConnection_exchange failure).1, openConnection_opened failure]
    change other.Holds others _ ∧ Apart (earlier ++ (Event.opened journal.events ++ [])) others
    rw [List.append_nil]
    exact ⟨opening version? names, apart⟩
  | @closed _ _ connection ready =>
    cases reached
    rw [Event.opened_closed]
    have kept : other.Holds others
        (journal.store.step (.close connection.identifier)).2 := by
      apply foreign.step
      rintro identifier theirs below ⟨⟩
      exact apart _ (holds.own connection ready) theirs below
    exact ⟨kept, apart⟩
  | @used _ _ command use =>
    cases reached
    rw [Event.opened_used journal use]
    refine ⟨foreign.step ?_, apart⟩
    rintro identifier - - rfl
    cases use
  | @noted _ _ events silent =>
    cases reached
    change other.Holds others journal.store ∧
      Apart (earlier ++ Event.opened (journal.events ++ events)) others
    rw [Event.opened_append, Event.opened_silent silent, List.append_nil]
    exact ⟨foreign, apart⟩
  | gaveUp | numbered =>
    cases reached
    exact ⟨foreign, apart⟩

end Steps

section Path

variable {start target : Handle × Journal} {earlier : List Nat} (steps : Steps start target)

include steps

theorem Steps.options : target.1.options = start.1.options := by
  induction steps with
  | refl => rfl
  | tail _ last ih => exact (Step.options last).trans ih

theorem Steps.holds
    (holds : start.1.Holds (earlier ++ Event.opened start.2.events) start.2.store) :
    target.1.Holds (earlier ++ Event.opened target.2.events) target.2.store := by
  induction steps with
  | refl => exact holds
  | tail _ last ih => exact Step.holds last ih

theorem Steps.spares {other : Handle} {others : List Nat}
    (holds : start.1.Holds (earlier ++ Event.opened start.2.events) start.2.store)
    (foreign : other.Holds others start.2.store)
    (apart : Apart (earlier ++ Event.opened start.2.events) others) :
    other.Holds others target.2.store ∧
      Apart (earlier ++ Event.opened target.2.events) others := by
  induction steps with
  | refl => exact ⟨foreign, apart⟩
  | tail before last ih =>
    obtain ⟨kept, disjoint⟩ := ih
    exact Step.spares last (Steps.holds before holds) kept disjoint

end Path

end Handle

end RecordSql
