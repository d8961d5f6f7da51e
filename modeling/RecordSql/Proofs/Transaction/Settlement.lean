import RecordSql.Proofs.Transaction.Ends
import RecordSql.Proofs.Transaction.Ledger

/-!
Every statement that is queued settles exactly once, and a run tells its end
once, after everything else. As long as the queue is open the ledger balances:
what was queued has settled or is waiting. Once it is closed nothing is queued
any more, and what is issued settles on the spot.
-/

namespace RecordSql

namespace Event

def settlement? : Event → Option Settlement
  | .settled issued outcome => some (issued, outcome)
  | _ => none

def settlements (events : List Event) : List Settlement := events.filterMap settlement?

def queuedPlace? : Event → Option Place
  | .queued place => some place
  | _ => none

def queuedPlaces (events : List Event) : List Place := events.filterMap queuedPlace?

def isEnding : Event → Bool
  | .completed | .failed _ => true
  | _ => false

/-- Whether the queue is open as long as there are no other events. -/
def isOpen : Event → Bool
  | .closed | .completed | .failed _ => false
  | _ => true

/-- Exchanges and lifecycle steps reach no callback. -/
def isInner : Event → Bool
  | .exchanged _ | .moved _ => true
  | _ => false

@[simp]
theorem settlements_append (left right : List Event) :
    settlements (left ++ right) = settlements left ++ settlements right :=
  List.filterMap_append

@[simp]
theorem queuedPlaces_append (left right : List Event) :
    queuedPlaces (left ++ right) = queuedPlaces left ++ queuedPlaces right :=
  List.filterMap_append

theorem mem_of_settlements {events : List Event} {issued : Issued} {outcome : Outcome}
    (member : (issued, outcome) ∈ settlements events) : .settled issued outcome ∈ events := by
  obtain ⟨event, inside, told⟩ := List.mem_filterMap.mp member
  cases event <;> cases told
  exact inside

theorem settlements_inner {events : List Event} (inner : ∀ event ∈ events, event.isInner) :
    settlements events = [] := by
  apply List.filterMap_eq_nil_iff.mpr
  intro event member
  cases event with
  | settled issued outcome => cases inner _ member
  | _ => rfl

theorem queuedPlaces_inner {events : List Event} (inner : ∀ event ∈ events, event.isInner) :
    queuedPlaces events = [] := by
  apply List.filterMap_eq_nil_iff.mpr
  intro event member
  cases event with
  | queued place => cases inner _ member
  | _ => rfl

theorem isOpen_of_isInner {event : Event} (inner : event.isInner) : event.isOpen := by
  cases event with
  | exchanged exchange => rfl
  | moved step => rfl
  | _ => cases inner

theorem not_isEnding_of_isOpen {event : Event} (isOpen : event.isOpen) :
    event.isEnding = false := by
  cases event with
  | completed => cases isOpen
  | failed cause => cases isOpen
  | _ => rfl

theorem not_isEnding_of_isSettled {event : Event} (told : (settlement? event).isSome) :
    event.isEnding = false := by
  cases event with
  | settled issued outcome => rfl
  | _ => cases told

theorem isInner_moved (step : TransactionEvent) : ∀ event ∈ [moved step], event.isInner := by
  intro event member
  rw [List.mem_singleton.mp member]
  rfl

theorem isInner_append {early late : List Event} (before : ∀ event ∈ early, event.isInner)
    (after : ∀ event ∈ late, event.isInner) : ∀ event ∈ early ++ late, event.isInner := by
  intro event member
  rcases List.mem_append.mp member with left | right
  · exact before event left
  · exact after event right

theorem inner_exchanges (exchanges : List Exchange) :
    ∀ event ∈ exchanges.map Event.exchanged, event.isInner := by
  intro event member
  obtain ⟨exchange, -, rfl⟩ := List.mem_map.mp member
  rfl

theorem settlements_queued (issued : List Issued) :
    settlements (issued.map fun each => .queued each.place) = [] := by
  apply List.filterMap_eq_nil_iff.mpr
  intro event member
  obtain ⟨each, -, rfl⟩ := List.mem_map.mp member
  rfl

theorem queuedPlaces_queued (issued : List Issued) :
    queuedPlaces (issued.map fun each => .queued each.place) = Issued.places issued := by
  induction issued with
  | nil => rfl
  | cons first rest ih => exact congrArg (first.place :: ·) ih

end Event

namespace SettleAtOnce

variable {cause : Failure} {waiting : List Issued} {events : List Event}

theorem queuedPlaces (drained : SettleAtOnce cause waiting events) :
    Event.queuedPlaces events = [] := by
  induction drained with
  | none cause => rfl
  | one followers others nothing neither =>
    change Event.queuedPlaces (_ ++ _) = []
    rw [Event.queuedPlaces_append, nothing, neither, List.append_nil]

theorem isSettled (drained : SettleAtOnce cause waiting events) :
    ∀ event ∈ events, (Event.settlement? event).isSome := by
  induction drained with
  | none cause => intro event member; cases member
  | one followers others inner later =>
    intro event member
    rcases List.mem_cons.mp member with rfl | further
    · rfl
    · rcases List.mem_append.mp further with early | late
      · exact inner event early
      · exact later event late

theorem settles (drained : SettleAtOnce cause waiting events) (issued : Issued)
    (member : issued ∈ waiting) :
    issued ∈ Settlement.issued (Event.settlements events) := by
  induction drained with
  | none cause => cases member
  | @one cause first rest inner later followers others ihFollowers ihRest =>
    change issued ∈ first :: Settlement.issued (Event.settlements (inner ++ later))
    rw [Event.settlements_append, Settlement.issued_append]
    rcases List.mem_cons.mp member with rfl | further
    · exact List.mem_cons_self ..
    · exact List.mem_cons_of_mem _ (List.mem_append_right _ (ihRest further))

theorem ledger {program : List Statement} {settled : List Settlement} {others : List Issued}
    (drained : SettleAtOnce cause waiting events)
    (known : Ledger program settled (waiting ++ others)) :
    Ledger program (settled ++ Event.settlements events) others := by
  induction drained generalizing settled others with
  | none cause =>
    change Ledger program (settled ++ []) others
    rw [List.append_nil]
    exact known
  | @one cause issued rest inner later followers remaining ihFollowers ihRest =>
    have headed := known.settle (.error cause)
    have below := ihFollowers headed
    have finished := ihRest below
    rw [List.append_assoc, List.append_assoc] at finished
    rw [← List.singleton_append, Event.settlements_append, Event.settlements_append]
    exact finished

end SettleAtOnce

namespace Transaction

theorem refusals_settle (placed : Nat → Place) (index : Nat) : (statements : List Statement) →
    SettleAtOnce .transactionClosed (Issued.number placed index statements)
      (refusals placed index statements)
  | [] => .none .transactionClosed
  | ⟨_, _, _, none⟩ :: rest =>
      .one (.none .transactionClosed) (refusals_settle placed (index + 1) rest)
  | ⟨_, _, _, some followers⟩ :: rest =>
      .one (refusals_settle (Place.afterFailure (placed index)) 0 followers)
        (refusals_settle placed (index + 1) rest)

theorem abandoned_settle (cause : Failure) (waiting : List Pending) :
    SettleAtOnce cause (waiting.map Pending.issued)
      (waiting.flatMap fun each => abandoned cause each.issued) := by
  induction waiting with
  | nil => exact .none cause
  | cons first rest ih => exact .one (refusals_settle _ 0 _) ih

end Transaction

/-- The ledger while the queue is open. -/
structure OpenLedger (program : List Statement) (events : List Event)
    (waiting : List Issued) : Prop where
  ledger : Ledger program (Event.settlements events) waiting
  /-- Whatever the setup and the callbacks have issued was queued. -/
  accepted : Event.queuedPlaces events =
    Issued.places (issuedAtSetup program ++ Settlement.followers (Event.settlements events))
  balanced : (Issued.places (Settlement.issued (Event.settlements events) ++ waiting)).Perm
    (Event.queuedPlaces events)
  isOpen : ∀ event ∈ events, event.isOpen
  started : ∃ number, .setup number ∈ events

namespace OpenLedger

variable {program : List Statement} {events : List Event} {waiting : List Issued}

theorem reorder {others : List Issued} (books : OpenLedger program events waiting)
    (same : waiting.Perm others) : OpenLedger program events others where
  ledger := books.ledger.reorder same
  accepted := books.accepted
  balanced := ((same.append_left _).map Issued.place).symm.trans books.balanced
  isOpen := books.isOpen
  started := books.started

theorem inner (books : OpenLedger program events waiting) (more : List Event)
    (innerOnly : ∀ event ∈ more, event.isInner) : OpenLedger program (events ++ more) waiting := by
  have settlements : Event.settlements (events ++ more) = Event.settlements events := by
    rw [Event.settlements_append, Event.settlements_inner innerOnly, List.append_nil]
  have queuedPlaces : Event.queuedPlaces (events ++ more) = Event.queuedPlaces events := by
    rw [Event.queuedPlaces_append, Event.queuedPlaces_inner innerOnly, List.append_nil]
  constructor
  · rw [settlements]
    exact books.ledger
  · rw [settlements, queuedPlaces]
    exact books.accepted
  · rw [settlements, queuedPlaces]
    exact books.balanced
  · intro event member
    rcases List.mem_append.mp member with before | new
    · exact books.isOpen event before
    · exact Event.isOpen_of_isInner (innerOnly event new)
  · obtain ⟨number, member⟩ := books.started
    exact ⟨number, List.mem_append_left _ member⟩

theorem settle {issued : Issued} (books : OpenLedger program events (issued :: waiting))
    (outcome : Outcome) :
    OpenLedger program (events ++ (.settled issued outcome ::
      (issued.followers outcome).map fun each => .queued each.place))
      (issued.followers outcome ++ waiting) := by
  have settlements : Event.settlements (events ++ (.settled issued outcome ::
      (issued.followers outcome).map fun each => .queued each.place)) =
      Event.settlements events ++ [(issued, outcome)] := by
    rw [Event.settlements_append]
    exact congrArg (fun later => _ ++ (issued, outcome) :: later)
      (Event.settlements_queued (issued.followers outcome))
  have queuedPlaces : Event.queuedPlaces (events ++ (.settled issued outcome ::
      (issued.followers outcome).map fun each => .queued each.place)) =
      Event.queuedPlaces events ++ Issued.places (issued.followers outcome) := by
    rw [Event.queuedPlaces_append]
    exact congrArg (_ ++ ·) (Event.queuedPlaces_queued (issued.followers outcome))
  constructor
  · rw [settlements]
    exact books.ledger.settle outcome
  · have last : Settlement.followers [(issued, outcome)] = issued.followers outcome :=
      List.append_nil _
    rw [settlements, queuedPlaces, books.accepted, Settlement.followers_append, last]
    simp only [Issued.places_append, List.append_assoc]
  · rw [settlements, queuedPlaces]
    refine List.Perm.trans ?_ (books.balanced.append_right _)
    rw [← Issued.places_append, Settlement.issued_append, List.append_assoc, List.append_assoc]
    have swapped : (issued.followers outcome ++ waiting).Perm
        (waiting ++ issued.followers outcome) := List.perm_append_comm
    exact (List.Perm.append_left _ (swapped.cons issued)).map Issued.place
  · intro event member
    rcases List.mem_append.mp member with before | new
    · exact books.isOpen event before
    · rcases List.mem_cons.mp new with rfl | queued
      · rfl
      · obtain ⟨each, -, rfl⟩ := List.mem_map.mp queued
        rfl
  · obtain ⟨number, member⟩ := books.started
    exact ⟨number, List.mem_append_left _ member⟩

theorem start (program : List Statement) (number : UInt64) {earlier : List Event}
    (innerOnly : ∀ event ∈ earlier, event.isInner) :
    OpenLedger program (earlier ++ .setup number ::
      (issuedAtSetup program).map fun each => .queued each.place) (issuedAtSetup program) := by
  have settlements : Event.settlements (earlier ++ .setup number ::
      (issuedAtSetup program).map fun each => .queued each.place) = [] := by
    rw [Event.settlements_append, Event.settlements_inner innerOnly]
    exact Event.settlements_queued (issuedAtSetup program)
  have queuedPlaces : Event.queuedPlaces (earlier ++ .setup number ::
      (issuedAtSetup program).map fun each => .queued each.place) =
      Issued.places (issuedAtSetup program) := by
    rw [Event.queuedPlaces_append, Event.queuedPlaces_inner innerOnly]
    exact Event.queuedPlaces_queued (issuedAtSetup program)
  constructor
  · rw [settlements]
    exact .start program
  · rw [settlements, queuedPlaces]
    exact congrArg Issued.places (List.append_nil _).symm
  · rw [settlements, queuedPlaces]
    exact .rfl
  · intro event member
    rcases List.mem_append.mp member with before | new
    · exact Event.isOpen_of_isInner (innerOnly event before)
    · rcases List.mem_cons.mp new with rfl | queued
      · rfl
      · obtain ⟨each, -, rfl⟩ := List.mem_map.mp queued
        rfl
  · exact ⟨number, List.mem_append_right _ (List.mem_cons_self ..)⟩

end OpenLedger

namespace Transaction

variable {program : List Statement}

theorem triage_openLedger (mode : CollectionMode) (waiting planned : List Issued)
    {events : List Event} (books : OpenLedger program events (planned ++ waiting)) :
    OpenLedger program (events ++ (triage mode waiting).2)
      (planned ++ (triage mode waiting).1.map Pending.issued) := by
  fun_induction triage mode waiting generalizing events planned
  case case1 =>
    rw [List.append_nil]
    exact books
  case case2 issued rest plan valid pending later same ih =>
    have moved : OpenLedger program events ((planned ++ [issued]) ++ rest) := by
      rw [List.append_assoc]
      exact books
    have kept := ih _ moved
    rw [same, List.append_assoc] at kept
    exact kept
  case case3 issued rest cause invalid followers pending later same ih =>
    -- Its callback may issue statements that can be carried out; they wait last.
    have front : (planned ++ issued :: rest).Perm (issued :: (planned ++ rest)) :=
      List.perm_middle
    have settled := (books.reorder front).settle (.error cause)
    have behind : (issued.followers (.error cause) ++ (planned ++ rest)).Perm
        (planned ++ (rest ++ issued.followers (.error cause))) := by
      rw [← List.append_assoc planned]
      exact List.perm_append_comm
    have kept := ih _ (settled.reorder behind)
    rw [same, List.append_assoc] at kept
    exact kept

theorem runTasks_openLedger (schedule : Schedule) (mode : CollectionMode) (transaction : Nat)
    (tasks : List Task) (journal : Journal)
    (books : OpenLedger program journal.events (tasks.map Task.issued)) :
    OpenLedger program (runTasks schedule mode transaction tasks journal).events [] := by
  refine runTasks_keeps (fun tasks journal =>
    OpenLedger program journal.events (tasks.map Task.issued)) ?_ ?_ tasks journal books
  · intro issued call rest journal held
    have sent := held.inner _ (Event.inner_exchanges [⟨.request transaction call.collection
      call.request, (journal.store.step (.request transaction call.collection
        call.request)).1⟩])
    apply sent.reorder
    cases schedule with
    | serial => exact .rfl
    | interleaved =>
      rw [Schedule.requeue, List.map_append]
      exact (List.perm_append_singleton _ _).symm
  · intro issued outcome rest journal held
    have settled := held.settle outcome
    have moved := settled.inner ([.moved .statementSettled] ++
      (issued.followers outcome).map fun _ => .moved .statementIssued) (by simp [Event.isInner])
    have started : (((issued.followers outcome).map (Task.start mode)).map Task.issued) =
        issued.followers outcome := by
      rw [List.map_map]
      exact List.map_id _
    have behind : (issued.followers outcome ++ rest.map Task.issued).Perm
        ((rest ++ (issued.followers outcome).map (Task.start mode)).map Task.issued) := by
      rw [List.map_append, started]
      exact List.perm_append_comm
    have kept := moved.reorder behind
    simpa only [Journal.settle, Journal.queue, Journal.move, Journal.note, List.append_assoc,
      List.nil_append, List.cons_append] using kept

/-- The events of a run on either side of the moment at which it closes the
queue. Up to then all that is issued is queued; afterwards the statements that
are still waiting settle with the failure of the run, and nothing is queued. -/
structure Closing (program : List Statement) (result : Except Failure Unit)
    (before after : List Event) : Prop where
  accepted : Event.queuedPlaces before =
    Issued.places (issuedAtSetup program ++ Settlement.followers (Event.settlements before))
  refused : Event.queuedPlaces after = []
  drained : ∃ cause waiting drained rest, SettleAtOnce cause waiting drained ∧
    after = drained ++ rest ∧ Event.settlements rest = [] ∧
    (∀ issued ∈ waiting, issued.place ∈ Event.queuedPlaces before) ∧
    (waiting ≠ [] → result = .error cause)

/-- What the events of a run that ended with `result` tell its caller. -/
structure Settles (program : List Statement) (result : Except Failure Unit)
    (events : List Event) : Prop where
  genuine : ∀ settlement ∈ Event.settlements events,
    settlement.1.place.statement? program = some settlement.1.statement
  distinct : (Issued.places (Settlement.issued (Event.settlements events))).Nodup
  once : ∀ place ∈ Event.queuedPlaces events,
    ∃ outcome, Settlement.outcomesAt place (Event.settlements events) = [outcome]
  ended : ∃ earlier, events = earlier ++ [.ending result] ∧
    ∀ event ∈ earlier, event.isEnding = false
  closing : (∃ number before after, .setup number ∈ before ∧ events = before ++ .closed :: after ∧
      .closed ∉ before ∧ .closed ∉ after ∧ Closing program result before after) ∨
    ((∀ number, .setup number ∉ events) ∧ Event.queuedPlaces events = [] ∧
      Event.settlements events = [])

theorem Settles.ofInner (program : List Statement) {cause : Failure} {earlier : List Event}
    (innerOnly : ∀ event ∈ earlier, event.isInner) :
    Settles program (.error cause) (earlier ++ [.ending (.error cause)]) := by
  have settlements : Event.settlements (earlier ++ [.ending (.error cause)]) = [] := by
    rw [Event.settlements_append, Event.settlements_inner innerOnly]
    rfl
  have queuedPlaces : Event.queuedPlaces (earlier ++ [.ending (.error cause)]) = [] := by
    rw [Event.queuedPlaces_append, Event.queuedPlaces_inner innerOnly]
    rfl
  constructor
  · rw [settlements]
    intro settlement member
    cases member
  · rw [settlements]
    exact .nil
  · rw [queuedPlaces]
    intro place member
    cases member
  · refine ⟨earlier, rfl, ?_⟩
    intro event member
    exact Event.not_isEnding_of_isOpen (Event.isOpen_of_isInner (innerOnly event member))
  · refine .inr ⟨fun number member => ?_, queuedPlaces, settlements⟩
    rcases List.mem_append.mp member with inner | ended
    · cases innerOnly _ inner
    · cases List.mem_singleton.mp ended

theorem Settles.told {program : List Statement} {result : Except Failure Unit}
    {events : List Event} (settles : Settles program result events)
    (told : Except Failure Unit) :
    .ending told ∈ events ↔ result = told := by
  obtain ⟨earlier, same, silent⟩ := settles.ended
  rw [same]
  constructor
  · intro member
    rcases List.mem_append.mp member with before | last
    · have loud : (Event.ending told).isEnding = true := by cases told <;> rfl
      rw [silent _ before] at loud
      cases loud
    · have equal := List.mem_singleton.mp last
      cases told <;> cases result <;> cases equal <;> rfl
  · rintro rfl
    exact List.mem_append_right _ (List.mem_singleton_self _)

end Transaction

/-- The queue is closed, the waiting statements settle and the end is told. -/
theorem OpenLedger.close {program : List Statement} {events drained : List Event}
    {waiting : List Issued} {cause : Failure} (books : OpenLedger program events waiting)
    (result : Except Failure Unit) (rest : List Event)
    (settling : SettleAtOnce cause waiting drained)
    (innerOnly : ∀ event ∈ rest, event.isInner) (blamed : waiting ≠ [] → result = .error cause) :
    Transaction.Settles program result
      (events ++ .closed :: (drained ++ (rest ++ [.ending result]))) := by
  have last : Event.settlements (rest ++ [.ending result]) = [] ∧
      Event.queuedPlaces (rest ++ [.ending result]) = [] := by
    rw [Event.settlements_append, Event.queuedPlaces_append, Event.settlements_inner innerOnly,
      Event.queuedPlaces_inner innerOnly]
    cases result <;> exact ⟨rfl, rfl⟩
  have settlements : Event.settlements (events ++ .closed :: (drained ++
      (rest ++ [.ending result]))) = Event.settlements events ++ Event.settlements drained := by
    rw [Event.settlements_append]
    change _ ++ Event.settlements (drained ++ _) = _
    rw [Event.settlements_append, last.1, List.append_nil]
  have after : Event.queuedPlaces (drained ++ (rest ++ [.ending result])) = [] := by
    rw [Event.queuedPlaces_append, settling.queuedPlaces, last.2, List.append_nil]
  have queuedPlaces : Event.queuedPlaces (events ++ .closed :: (drained ++
      (rest ++ [.ending result]))) = Event.queuedPlaces events := by
    rw [Event.queuedPlaces_append]
    exact (congrArg (_ ++ ·) after).trans (List.append_nil _)
  have final : Ledger program (Event.settlements events ++ Event.settlements drained) [] :=
    settling.ledger (books.ledger.reorder (.of_eq (List.append_nil waiting).symm))
  constructor
  · intro settlement member
    rw [settlements] at member
    exact final.genuine settlement.1 (List.mem_append_left _ (List.mem_map_of_mem member))
  · have distinct := final.distinct
    rw [List.append_nil] at distinct
    rw [settlements]
    exact distinct
  · intro place queued
    rw [queuedPlaces] at queued
    have distinct := final.distinct
    rw [List.append_nil] at distinct
    rw [settlements]
    apply Settlement.outcomesAt_of_mem distinct
    rw [Settlement.issued_append, Issued.places_append]
    obtain ⟨issued, member, rfl⟩ := List.mem_map.mp (books.balanced.mem_iff.mpr queued)
    rcases List.mem_append.mp member with settled | waits
    · exact List.mem_append_left _ (List.mem_map_of_mem settled)
    · exact List.mem_append_right _ (List.mem_map_of_mem (settling.settles issued waits))
  · refine ⟨events ++ .closed :: (drained ++ rest), by simp, ?_⟩
    intro event member
    rcases List.mem_append.mp member with before | closing
    · exact Event.not_isEnding_of_isOpen (books.isOpen event before)
    · rcases List.mem_cons.mp closing with rfl | later
      · rfl
      · rcases List.mem_append.mp later with settled | inner
        · exact Event.not_isEnding_of_isSettled (settling.isSettled event settled)
        · exact Event.not_isEnding_of_isOpen (Event.isOpen_of_isInner (innerOnly event inner))
  · obtain ⟨number, started⟩ := books.started
    refine .inl ⟨number, events, _, started, rfl, ?_, ?_, books.accepted, after,
      cause, waiting, drained, _, settling, rfl, last.1, ?_, blamed⟩
    · intro member
      cases books.isOpen _ member
    · intro member
      rcases List.mem_append.mp member with settled | later
      · cases settling.isSettled _ settled
      · rcases List.mem_append.mp later with inner | ended
        · cases innerOnly _ inner
        · cases result <;> cases List.mem_singleton.mp ended
    · intro issued member
      exact books.balanced.mem_iff.mp (List.mem_map_of_mem (List.mem_append_right _ member))

namespace Transaction

variable (schedule : Schedule) (program : List Statement) (handle : Handle) (store : Store)

theorem awaited_inner : ∀ event ∈ (awaited handle store).2.events, event.isInner := by
  obtain ⟨exchanges, events⟩ := (awaited_continues handle store).sends.events
  intro event member
  rw [events] at member
  exact Event.inner_exchanges exchanges event member

theorem prepared_openLedger :
    OpenLedger program (prepared program handle store).events
      ((sorted program handle store).1.map Pending.issued) := by
  have issued := OpenLedger.start program handle.takeNumber.1 (awaited_inner handle store)
  have returned := issued.inner [.moved .setupReturned] (by simp [Event.isInner])
  have kept := triage_openLedger (awaited handle store).1.options.mode
    (issuedAtSetup program) [] returned
  simpa only [prepared, sorted, setUp, Journal.note, Journal.queue, Journal.move,
    List.append_assoc, List.nil_append, List.cons_append] using kept

theorem begun_openLedger :
    OpenLedger program (begun program handle store).2.2.events
      ((sorted program handle store).1.map Pending.issued) := by
  obtain ⟨exchanges, events⟩ := begun_events program handle store
  rw [events]
  exact (prepared_openLedger program handle store).inner _ (Event.inner_exchanges exchanges)

theorem carried_openLedger (transaction : Nat) :
    OpenLedger program
      (carried schedule program handle store transaction (begun program handle store).2).events
      [] := by
  apply runTasks_openLedger schedule _ transaction _ _
  have tasks : ((sorted program handle store).1.map Pending.task).map Task.issued =
      (sorted program handle store).1.map Pending.issued := List.map_map
  rw [tasks]
  exact (begun_openLedger program handle store).inner _ (by simp [Event.isInner])

theorem run_settles :
    Settles program (run schedule program handle store).result
      (run schedule program handle store).journal.events := by
  generalize ended : run schedule program handle store = done
  have ends := run_ends schedule program handle store
  rw [ended] at ends
  cases ends with
  | unready cause state =>
    rw [ended_result, ended_events, ← List.singleton_append, ← List.append_assoc]
    exact .ofInner program
      (Event.isInner_append (awaited_inner handle store) (Event.isInner_moved _))
  | idle connection ready nothing =>
    have books := prepared_openLedger program handle store
    rw [nothing] at books
    have closed := books.close (.ok ()) [.moved .completed]
      (.none .transactionClosed) (Event.isInner_moved _) (absurd rfl)
    rw [ended_result, ended_events]
    simpa only [lastStep, Journal.note, List.append_assoc, List.nil_append, List.cons_append]
      using closed
  | abandoned connection ready something cause later failed =>
    have books := begun_openLedger program handle store
    rw [failed] at books
    have closed := books.close (.error cause) [.moved (.errored cause)]
      (abandoned_settle cause _) (Event.isInner_moved _) (fun _ => rfl)
    rw [ended_result, ended_events]
    simpa only [lastStep, Journal.note, List.append_assoc, List.nil_append, List.cons_append]
      using closed
  | finished connection ready something transaction later began =>
    have books := carried_openLedger schedule program handle store transaction
    rw [began] at books
    -- Nothing waits any more, so nobody is blamed for a commit that fails.
    have closed := fun result => books.close result
      ([⟨.commit transaction, (committed schedule program handle store transaction later).1⟩].map
        Event.exchanged ++ [.moved (lastStep result)])
      (.none .transactionClosed) (Event.isInner_append (Event.inner_exchanges _)
        (Event.isInner_moved (lastStep result))) (absurd rfl)
    rw [ended_result, ended_events]
    simpa only [committed, Journal.send, Journal.note, List.map_cons, List.map_nil,
      List.append_assoc, List.nil_append, List.cons_append] using closed _

theorem run_setup_iff :
    (∃ number, .setup number ∈ (run schedule program handle store).journal.events) ↔
      ∃ connection, (awaited handle store).1.connection = .ok connection := by
  have prepared := (prepared_openLedger program handle store).started
  have beginning := (begun_openLedger program handle store).started
  have carried := fun transaction =>
    (carried_openLedger schedule program handle store transaction).started
  have append : ∀ {events more : List Event}, (∃ number, .setup number ∈ events) →
      ∃ number, .setup number ∈ events ++ more := by
    rintro events more ⟨number, member⟩
    exact ⟨number, List.mem_append_left _ member⟩
  generalize ended : run schedule program handle store = done
  have ends := run_ends schedule program handle store
  rw [ended] at ends
  cases ends with
  | unready cause state =>
    rw [ended_events]
    constructor
    · rintro ⟨number, member⟩
      rcases List.mem_append.mp member with before | last
      · cases awaited_inner handle store _ before
      · rcases List.mem_cons.mp last with moved | told
        · cases moved
        · cases List.mem_singleton.mp told
    · rintro ⟨connection, ready⟩
      cases state.symm.trans ready
  | idle connection known =>
    rw [ended_events]
    exact iff_of_true (append (append prepared)) ⟨_, known⟩
  | abandoned connection known something cause later failed =>
    rw [failed] at beginning
    rw [ended_events]
    exact iff_of_true (append (append beginning)) ⟨_, known⟩
  | finished connection known something transaction later began =>
    have finished := carried transaction
    rw [began] at finished
    rw [ended_events]
    exact iff_of_true (append (append (append finished))) ⟨_, known⟩

/-- A statement issued on a transaction that has finished settles on the spot,
and so does whatever its callback issues. -/
theorem late_settle (program : List Statement) :
    SettleAtOnce .transactionClosed (issuedAtSetup program) (late program) :=
  refusals_settle .top 0 program

theorem late_ledger (program : List Statement) :
    Ledger program (Event.settlements (late program)) [] := by
  have started := Ledger.start program
  exact (late_settle program).ledger
    (started.reorder (.of_eq (List.append_nil (issuedAtSetup program)).symm))

/-- Every statement that a run queues settles exactly once, before the run tells
its end, which it tells once and as it answers it. What is issued after the
queue was closed, during the run or after it, settles at once. -/
theorem every_statement_settles_once :
    Settles program (run schedule program handle store).result
      (run schedule program handle store).journal.events ∧
    ((∃ number, .setup number ∈ (run schedule program handle store).journal.events) ↔
      ∃ connection, (awaited handle store).1.connection = .ok connection) ∧
    (∀ cause, .failed cause ∈ (run schedule program handle store).journal.events ↔
      (run schedule program handle store).result = .error cause) ∧
    (.completed ∈ (run schedule program handle store).journal.events ↔
      (run schedule program handle store).result = .ok ()) ∧
    ∀ later, SettleAtOnce .transactionClosed (issuedAtSetup later) (late later) ∧
      (Issued.places (Settlement.issued (Event.settlements (late later)))).Nodup := by
  have settles := run_settles schedule program handle store
  refine ⟨settles, run_setup_iff schedule program handle store,
    fun cause => settles.told (.error cause), settles.told (.ok ()),
    fun later => ⟨late_settle later, ?_⟩⟩
  have distinct := (late_ledger later).distinct
  rw [List.append_nil] at distinct
  exact distinct

end Transaction

end RecordSql
