import Mathlib.Logic.Relation
import RecordSql.Proofs.Handle.Stranding

/-!
What is done with a handle, one step at a time. A handle opens its database, or
fails to, gives up, or closes its connection in order to open again; all else
leaves it alone. Whatever a single step keeps holds after every operation.
-/

namespace RecordSql

/-- The commands that make use of a connection or of a transaction. -/
def Command.IsUse : Command → Prop
  | .beginTransaction _ _ _ | .request _ _ _ | .commit _ => True
  | _ => False

def Event.isExchange : Event → Bool
  | .exchanged _ => true
  | _ => false

/-- A failure that tells of no closed connection and no finished transaction. -/
def Failure.IsUsable (cause : Failure) : Prop :=
  ∀ told, cause.cause? = some told → told.kind ≠ .invalidState

namespace Handle

inductive Step : Handle × Journal → Handle × Journal → Prop where
  | opened {handle : Handle} {journal : Journal} (unsettled : handle.state.isSettled = false)
      {version? : Option UInt32} {names : List String} {connection : Connection}
      {after : Handle × Journal}
      (success : handle.openConnection version? names journal = (.ok connection, after)) :
      Step (handle, journal) (after.1.move (.opened connection), after.2)
  | refused {handle : Handle} {journal : Journal} (unsettled : handle.state.isSettled = false)
      {version? : Option UInt32} {names : List String} {cause : StoreError}
      {after : Handle × Journal}
      (failure : handle.openConnection version? names journal = (.error cause, after)) :
      Step (handle, journal) after
  | gaveUp {handle : Handle} {journal : Journal} (unsettled : handle.state.isSettled = false)
      {cause : Failure} (usable : cause.IsUsable) :
      Step (handle, journal) (handle.move (.failed cause), journal)
  | closed {handle : Handle} {journal : Journal} {connection : Connection}
      (ready : handle.state = .ready connection) :
      Step (handle, journal) (handle.move .reopening, Handle.closed connection journal)
  | used {handle : Handle} {journal : Journal} {command : Command} (use : command.IsUse) :
      Step (handle, journal) (handle, (journal.send command).2)
  | noted {handle : Handle} {journal : Journal} {events : List Event}
      (silent : ∀ event ∈ events, event.isExchange = false) :
      Step (handle, journal) (handle, journal.note events)
  | numbered {handle : Handle} {journal : Journal} :
      Step (handle, journal) (handle.takeNumber.2, journal)

abbrev Steps := Relation.ReflTransGen Step

section Operations

variable {handle : Handle} {journal : Journal} {connection : Connection}

/-- A database never refuses to open because something is closed or finished. -/
theorem openConnection_usable {version? : Option UInt32} {names : List String}
    {cause : StoreError} {after : Handle × Journal}
    (failure : handle.openConnection version? names journal = (.error cause, after)) :
    cause.kind ≠ .invalidState := by
  cases openConnection_ended failure with
  | injected | zero | outdated => rintro ⟨⟩

theorem usable_openFailed {version? : Option UInt32} {names : List String}
    {cause : StoreError} {after : Handle × Journal}
    (failure : handle.openConnection version? names journal = (.error cause, after)) :
    (Failure.openFailed cause).IsUsable := by
  rintro told ⟨⟩
  exact openConnection_usable failure

theorem refused_steps (unsettled : handle.state.isSettled = false)
    {version? : Option UInt32} {names : List String} {cause : StoreError}
    {after : Handle × Journal}
    (failure : handle.openConnection version? names journal = (.error cause, after)) :
    Steps (handle, journal) (after.1.move (.failed (.openFailed cause)), after.2) := by
  have still := handle.openConnection_unsettled unsettled version? names journal
  rw [failure] at still
  exact (Relation.ReflTransGen.single (.refused unsettled failure)).tail
    (.gaveUp still (usable_openFailed failure))

theorem openFirst_steps (unsettled : handle.state.isSettled = false) :
    Steps (handle, journal) (handle.openFirst journal) := by
  rw [openFirst]
  cases Version.read handle.options.version with
  | error fault => exact .single (.gaveUp unsettled (by rintro told ⟨⟩))
  | ok version? =>
    dsimp only
    generalize opened : handle.openConnection version? handle.options.firstCollections
      journal = reply
    obtain ⟨cause | connection, after⟩ := reply
    · exact refused_steps unsettled opened
    · exact .single (.opened unsettled opened)

theorem settle_steps (handle : Handle) (journal : Journal) :
    Steps (handle, journal) (handle.settle journal) := by
  rw [settle]
  cases settled : handle.state.isSettled with
  | true => exact .refl
  | false => exact openFirst_steps settled

theorem fallBack_steps (unsettled : handle.state.isSettled = false) :
    Steps (handle, journal) (handle.fallBack journal) := by
  rw [fallBack]
  generalize opened : handle.openConnection none [] journal = reply
  obtain ⟨cause | connection, after⟩ := reply
  · exact refused_steps unsettled opened
  · exact .single (.opened unsettled opened)

theorem reopening_unsettled (ready : handle.state = .ready connection) :
    (handle.move .reopening).state.isSettled = false := by
  simp only [move, ready]
  rfl

theorem grow_steps (ready : handle.state = .ready connection) (names : List String) :
    Steps (handle, journal) (handle.grow connection names journal).2 := by
  have closing : Steps (handle, journal)
      (handle.move .reopening, Handle.closed connection journal) := .single (.closed ready)
  have unsettled := reopening_unsettled ready
  have still := (handle.move .reopening).openConnection_unsettled unsettled
    (some (connection.version + 1)) names (Handle.closed connection journal)
  have grows := handle.grow_ends connection names journal
  generalize handle.grow connection names journal = done at grows ⊢
  cases grows with
  | exhausted => exact .refl
  | refused cause after room opened =>
    rw [opened] at still
    exact (closing.tail (.refused unsettled opened)).trans (fallBack_steps still)
  | grown covering after room opened => exact closing.tail (.opened unsettled opened)

theorem cover_steps (handle : Handle) (named : List String) (journal : Journal) :
    Steps (handle, journal) (handle.cover named journal).2 := by
  rw [cover]
  cases state : handle.state with
  | opening | upgrading | errored =>
    simp only [Handle.connection, state]
    exact .refl
  | ready connection =>
    simp only [Handle.connection, state]
    split
    · exact .refl
    · exact grow_steps state _

theorem beginTransaction_steps (handle : Handle) (named : List String) (journal : Journal) :
    Steps (handle, journal) (handle.beginTransaction named journal).2 := by
  have covered := handle.cover_steps named journal
  rw [beginTransaction]
  generalize handle.cover named journal = reply at covered ⊢
  obtain ⟨cause | connection, after⟩ := reply
  · exact covered
  · exact covered.tail (.used trivial)

end Operations

section Settled

variable {handle : Handle} {journal : Journal} {version? : Option UInt32} {names : List String}
  {cause : StoreError} {connection : Connection} {after : Handle × Journal}

theorem errored_of_failed (unsettled : handle.state.isSettled = false) (cause : Failure) :
    (handle.move (.failed cause)).state = .errored cause := by
  simp only [move]
  cases state : handle.state with
  | opening | upgrading => rfl
  | ready | errored =>
    rw [state] at unsettled
    cases unsettled

theorem refused_isSettled (unsettled : handle.state.isSettled = false)
    (failure : handle.openConnection version? names journal = (.error cause, after)) :
    (after.1.move (.failed (.openFailed cause))).state.isSettled = true := by
  have still := handle.openConnection_unsettled unsettled version? names journal
  rw [failure] at still
  rw [errored_of_failed still]
  rfl

theorem opened_isSettled (unsettled : handle.state.isSettled = false)
    (success : handle.openConnection version? names journal = (.ok connection, after)) :
    (after.1.move (.opened connection)).state.isSettled = true := by
  rw [opened_ready unsettled success]
  rfl

/-- Whoever awaits a handle finds it ready or errored. -/
theorem settle_isSettled (handle : Handle) (journal : Journal) :
    (handle.settle journal).1.state.isSettled = true := by
  rw [settle]
  cases settled : handle.state.isSettled with
  | true => exact settled
  | false =>
    rw [if_neg Bool.false_ne_true, openFirst]
    cases Version.read handle.options.version with
    | error fault =>
      rw [errored_of_failed settled]
      rfl
    | ok version? =>
      dsimp only
      generalize opened : handle.openConnection version? handle.options.firstCollections
        journal = reply
      obtain ⟨cause | connection, after⟩ := reply
      · exact refused_isSettled settled opened
      · exact opened_isSettled settled opened

theorem fallBack_isSettled (unsettled : handle.state.isSettled = false) (journal : Journal) :
    (handle.fallBack journal).1.state.isSettled = true := by
  rw [fallBack]
  generalize opened : handle.openConnection none [] journal = reply
  obtain ⟨cause | connection, after⟩ := reply
  · exact refused_isSettled unsettled opened
  · exact opened_isSettled unsettled opened

theorem grow_isSettled (ready : handle.state = .ready connection) (names : List String)
    (journal : Journal) :
    (handle.grow connection names journal).2.1.state.isSettled = true := by
  have unsettled := reopening_unsettled ready
  have still := (handle.move .reopening).openConnection_unsettled unsettled
    (some (connection.version + 1)) names (Handle.closed connection journal)
  have grows := handle.grow_ends connection names journal
  generalize handle.grow connection names journal = done at grows ⊢
  cases grows with
  | exhausted =>
    rw [ready]
    rfl
  | refused cause after room opened =>
    rw [opened] at still
    exact fallBack_isSettled still after.2
  | grown covering after room opened => exact opened_isSettled unsettled opened

/-- Whatever becomes of the transaction, the handle is ready or errored afterwards. -/
theorem beginTransaction_isSettled (settled : handle.state.isSettled = true)
    (named : List String) (journal : Journal) :
    (handle.beginTransaction named journal).2.1.state.isSettled = true := by
  rw [beginTransaction_handle, cover]
  cases state : handle.state with
  | opening | upgrading | errored =>
    simp only [Handle.connection, state]
    exact state ▸ settled
  | ready connection =>
    simp only [Handle.connection, state]
    split
    · exact settled
    · exact grow_isSettled state _ journal

end Settled

end Handle

end RecordSql
