import RecordSql.Proofs.Handle.Additions
import RecordSql.Proofs.Transaction.Queues
import RecordSql.Proofs.Transaction.Requests
import RecordSql.Proofs.Transaction.Verdict

/-!
What becomes of statements that cannot be planned. Those that the setup issues settle
before the store is asked for anything, and so do those that their callbacks issue; the
others wait meanwhile in the order in which they were queued. Later on such a statement
takes a turn to settle, and that is all it takes.
-/

namespace RecordSql

def Issued.runs (mode : CollectionMode) (issued : Issued) : Bool :=
  (issued.statement.planned mode).isOk

theorem Issued.runs_of_ok {mode : CollectionMode} {issued : Issued} {plan : Plan}
    (planned : issued.statement.planned mode = .ok plan) : issued.runs mode = true := by
  rw [runs, planned]
  rfl

theorem Issued.runs_of_error {mode : CollectionMode} {issued : Issued} {cause : Failure}
    (refused : issued.statement.planned mode = .error cause) : issued.runs mode = false := by
  rw [runs, refused]
  rfl

namespace Transaction

/-- A statement that is issued by the setup, or by the callback of such a statement that
cannot be planned. -/
inductive Collected (mode : CollectionMode) (program : List Statement) : Issued → Prop where
  | setup {issued : Issued} (member : issued ∈ issuedAtSetup program) :
      Collected mode program issued
  | rejected {parent issued : Issued} {cause : Failure} (collected : Collected mode program parent)
      (refused : parent.statement.planned mode = .error cause)
      (member : issued ∈ parent.followers (.error cause)) : Collected mode program issued

section Triage

variable (mode : CollectionMode) (waiting : List Issued)

/-- What was waiting, and behind it what the rejected statements have issued. -/
def gathered : List Issued :=
  waiting ++ Settlement.followers (Event.settlements (triage mode waiting).2)

theorem settlements_rejected (issued : Issued) (outcome : Outcome) (followers : List Issued)
    (later : List Event) :
    Event.settlements (.settled issued outcome ::
        followers.map (fun each => .queued each.place) ++ later) =
      (issued, outcome) :: Event.settlements later := by
  rw [Event.settlements_append]
  exact congrArg ((issued, outcome) :: · ++ Event.settlements later)
    (Event.settlements_queued followers)

/-- Both those that go on waiting and those that settle keep the order of the queue. -/
theorem triage_gathered :
    (triage mode waiting).1.map Pending.issued = (gathered mode waiting).filter (·.runs mode) ∧
      Settlement.issued (Event.settlements (triage mode waiting).2) =
        (gathered mode waiting).filter (!·.runs mode) := by
  unfold gathered
  fun_induction triage mode waiting
  case case1 => exact ⟨rfl, rfl⟩
  case case2 issued rest plan valid pending later same ih =>
    rw [same] at ih
    have runs := Issued.runs_of_ok valid
    simp only [List.map_cons, List.cons_append, List.filter_cons, runs, ↓reduceIte,
      Bool.not_true, Bool.false_eq_true, ih.1, true_and]
    exact ih.2
  case case3 issued rest cause invalid followers pending later same ih =>
    rw [same] at ih
    have stops := Issued.runs_of_error invalid
    -- The followers go to the end of the queue, not to the place of the rejected one.
    have behind : issued :: rest ++ Settlement.followers
          ((issued, .error cause) :: Event.settlements later) =
        issued :: (rest ++ followers ++ Settlement.followers (Event.settlements later)) := by
      rw [Settlement.followers, List.flatMap_cons, List.cons_append, List.append_assoc]
      rfl
    rw [settlements_rejected, behind]
    simp only [List.filter_cons, stops, Bool.false_eq_true, ↓reduceIte, Bool.not_false]
    exact ⟨ih.1, congrArg (issued :: ·) ih.2⟩

variable {mode} {waiting} {program : List Statement}

/-- By induction along the queue, which grows by what the rejected statements issue. -/
theorem triage_collected (collected : ∀ issued ∈ waiting, Collected mode program issued) :
    ∀ settlement ∈ Event.settlements (triage mode waiting).2,
      Collected mode program settlement.1 := by
  fun_induction triage mode waiting
  case case1 => rintro settlement ⟨⟩
  case case2 issued rest plan valid pending later same ih =>
    rw [same] at ih
    exact ih fun each member => collected each (List.mem_cons_of_mem _ member)
  case case3 issued rest cause invalid followers pending later same ih =>
    rw [same] at ih
    have head := collected issued (List.mem_cons_self ..)
    have others := ih fun each member => by
      rcases List.mem_append.mp member with waits | follows
      · exact collected each (List.mem_cons_of_mem _ waits)
      · exact .rejected head invalid follows
    intro settlement member
    rw [settlements_rejected] at member
    rcases List.mem_cons.mp member with rfl | after
    · exact head
    · exact others settlement after

theorem gathered_settles {issued : Issued} (member : issued ∈ gathered mode waiting)
    {cause : Failure} (refused : issued.statement.planned mode = .error cause) :
    (issued, .error cause) ∈ Event.settlements (triage mode waiting).2 := by
  have rejected : issued ∈ (gathered mode waiting).filter (!·.runs mode) :=
    List.mem_filter.mpr ⟨member, by rw [Issued.runs_of_error refused]; rfl⟩
  rw [← (triage_gathered mode waiting).2] at rejected
  obtain ⟨⟨other, outcome⟩, settled, rfl⟩ := List.mem_map.mp rejected
  obtain ⟨same, failed, told⟩ := triage_unplanned settled
  cases failed.symm.trans refused
  cases told
  exact settled

/-- The queue holds just the collected statements. -/
theorem mem_gathered_iff {issued : Issued} :
    issued ∈ gathered mode (issuedAtSetup program) ↔ Collected mode program issued := by
  constructor
  · intro member
    rcases List.mem_append.mp member with setup | follows
    · exact .setup setup
    · obtain ⟨settlement, settled, below⟩ := List.mem_flatMap.mp follows
      obtain ⟨cause, refused, told⟩ := triage_unplanned settled
      rw [told] at below
      exact .rejected (triage_collected (fun each => .setup) settlement settled) refused below
  · intro collected
    induction collected with
    | setup member => exact List.mem_append_left _ member
    | rejected collected refused member ih =>
      exact List.mem_append_right _
        (List.mem_flatMap.mpr ⟨_, gathered_settles ih refused, member⟩)

end Triage

section Run

variable (schedule : Schedule) (program : List Statement) (handle : Handle) (store : Store)

theorem sorted_eq : sorted program handle store =
    triage handle.options.mode (issuedAtSetup program) := by
  rw [sorted, awaited_options]

variable {program} {handle} {store}

/-- On a handle that is ready everything else comes after the rejections. -/
theorem run_extends_prepared {connection : Connection}
    (ready : (awaited handle store).1.connection = .ok connection) :
    ∃ later, (run schedule program handle store).journal.events =
      (prepared program handle store).events ++ later := by
  obtain ⟨exchanges, begins⟩ := begun_events program handle store
  have ends := run_ends schedule program handle store
  generalize run schedule program handle store = done at ends ⊢
  cases ends with
  | unready cause state => cases state.symm.trans ready
  | idle =>
    rw [ended_events, Journal.note, List.append_assoc]
    exact ⟨_, rfl⟩
  | abandoned _ _ _ cause later failed =>
    rw [failed] at begins
    rw [ended_events, Journal.note, begins, List.append_assoc, List.append_assoc]
    exact ⟨_, rfl⟩
  | finished _ _ _ transaction later began =>
    rw [began] at begins
    obtain ⟨more, carries⟩ := runTasks_extends schedule later.1.options.mode transaction
      ((sorted program handle store).1.map Pending.task)
      (later.2.note ((sorted program handle store).1.map fun _ => .moved .statementIssued))
    obtain ⟨last, ends⟩ := committed_events schedule program handle store transaction later
      ((committed schedule program handle store transaction later).1.mapError .transactionFailed)
    rw [ends, carried, carries, Journal.note, begins]
    simp only [List.append_assoc]
    exact ⟨_, rfl⟩

/-- The events between the awaiting of the handle and whatever is sent next. -/
theorem prepared_told (program : List Statement) (handle : Handle) (store : Store) :
    ∃ told : List Event,
    (prepared program handle store).events = (awaited handle store).2.events ++ told ∧
      (∀ event ∈ told, event.isExchange = false) ∧
      Event.settlements told = Event.settlements (sorted program handle store).2 ∧
      Event.queuedPlaces told =
        Issued.places (gathered handle.options.mode (issuedAtSetup program)) := by
  obtain ⟨told, silent, same⟩ := prepared_note program handle store
  have events : (prepared program handle store).events =
      (awaited handle store).2.events ++ told := by rw [same, Journal.note]
  have waits := awaited_inner handle store
  have settled := settlements_prepared program handle store
  have accepted := (prepared_openLedger program handle store).accepted
  rw [settled] at accepted
  rw [events, Event.settlements_append, Event.settlements_inner waits, List.nil_append] at settled
  rw [events, Event.queuedPlaces_append, Event.queuedPlaces_inner waits, List.nil_append,
    sorted_eq] at accepted
  exact ⟨told, events, silent, settled, accepted⟩

theorem pending_collected {pending : Pending}
    (waits : pending ∈ (sorted program handle store).1) :
    Collected handle.options.mode program pending.issued ∧
      pending.issued.statement.planned handle.options.mode = .ok pending.plan := by
  rw [sorted_eq] at waits
  have member := List.mem_map_of_mem (f := Pending.issued) waits
  rw [(triage_gathered ..).1] at member
  exact ⟨mem_gathered_iff.mp (List.mem_filter.mp member).1, triage_planned waits⟩

/-- What a transaction needs is named by a statement that was collected and can be
carried out. -/
theorem needed_collected (something : (sorted program handle store).1 ≠ []) {collection : String}
    (needs : collection ∈ (awaited handle store).1.needed (named program handle store)) :
    ∃ issued plan, Collected handle.options.mode program issued ∧
      issued.statement.planned handle.options.mode = .ok plan ∧ plan.collection = collection := by
  have mode : (awaited handle store).1.options.mode = handle.options.mode := by
    rw [awaited_options]
  simp only [Handle.needed, mode] at needs
  cases fixed : handle.options.mode with
  | fixed =>
    rw [fixed] at needs
    obtain ⟨pending, rest, waits⟩ := List.exists_cons_of_ne_nil something
    have member : pending ∈ (sorted program handle store).1 := waits ▸ List.mem_cons_self ..
    obtain ⟨collected, planned⟩ := pending_collected member
    rw [fixed] at collected planned
    refine ⟨pending.issued, pending.plan, collected, planned, ?_⟩
    rw [planOf_fixed planned, List.mem_singleton.mp needs]
  | perStatement =>
    rw [fixed] at needs
    obtain ⟨pending, member, same⟩ := List.mem_map.mp needs
    obtain ⟨collected, planned⟩ := pending_collected member
    rw [fixed] at collected planned
    exact ⟨pending.issued, pending.plan, collected, planned, same⟩

variable (program) (handle) (store)

theorem run_of_nothing (nothing : (sorted program handle store).1 = []) :
    (run schedule program handle store).handle = (awaited handle store).1 ∧
      (run schedule program handle store).journal.store = (awaited handle store).2.store := by
  have ends := run_ends schedule program handle store
  generalize run schedule program handle store = done at ends ⊢
  cases ends with
  | unready | idle => exact ⟨ended_handle .., ended_store ..⟩
  | abandoned _ _ something | finished _ _ something => exact absurd nothing something

theorem run_adds (database collection : String)
    (present : ((run schedule program handle store).journal.store.collection? database
      collection).isSome = true) :
    ((awaited handle store).2.store.collection? database collection).isSome = true ∨
      database = handle.options.name ∧ ∃ issued plan,
        Collected handle.options.mode program issued ∧
        issued.statement.planned handle.options.mode = .ok plan ∧
        plan.collection = collection := by
  by_cases nothing : (sorted program handle store).1 = []
  · rw [(run_of_nothing schedule program handle store nothing).2] at present
    exact .inl present
  · obtain ⟨told, silent, prepares⟩ := prepared_note program handle store
    have begins := (awaited handle store).1.beginTransaction_adds
      (prepared program handle store) (named program handle store)
    have same : (prepared program handle store).store = (awaited handle store).2.store := by
      rw [prepares, Journal.note]
    have options := awaited_options handle store
    rw [same, options] at begins
    have adds : (awaited handle store).2.store.Adds handle.options.name
        ((awaited handle store).1.needed (named program handle store))
        (run schedule program handle store).journal.store := by
      rcases run_follows schedule program handle store with ⟨-, idle⟩ | ⟨-, follows⟩
      · rw [idle]
        exact .refl _ _ _
      · refine follows (fun later => (awaited handle store).2.store.Adds handle.options.name _
          later) (fun later command work held => held.trans ?_) begins
        refine Store.adds_step command (fun name version? upgrade => ?_) _ _ _
        rintro rfl
        cases work
    rcases adds database collection present with before | ⟨here, needs⟩
    · exact .inl before
    · exact .inr ⟨here, needed_collected nothing needs⟩

/-- If every collected statement is rejected, the run is over with the rejections. -/
theorem run_all_rejected
    (ready : ∃ connection, (awaited handle store).1.connection = .ok connection)
    (rejected : ∀ issued, Collected handle.options.mode program issued →
      ∃ cause, issued.statement.planned handle.options.mode = .error cause) :
    (run schedule program handle store).result = .ok () ∧
      (run schedule program handle store).handle = (awaited handle store).1 ∧
      (run schedule program handle store).journal.store = (awaited handle store).2.store ∧
      Event.exchanges (run schedule program handle store).journal.events =
        Event.exchanges (awaited handle store).2.events := by
  -- Nothing waits, and so the run ends before a transaction of the store begins.
  have nothing : (sorted program handle store).1 = [] := by
    apply List.map_eq_nil_iff.mp
    rw [sorted_eq, (triage_gathered ..).1]
    refine List.filter_eq_nil_iff.mpr fun issued member => ?_
    obtain ⟨cause, refused⟩ := rejected issued (mem_gathered_iff.mp member)
    rw [Issued.runs_of_error refused]
    exact Bool.false_ne_true
  obtain ⟨sameHandle, sameStore⟩ := run_of_nothing schedule program handle store nothing
  refine ⟨(run_isOk_iff ..).mpr ⟨ready, .inl nothing⟩, sameHandle, sameStore, ?_⟩
  obtain ⟨told, events, silent, -, -⟩ := prepared_told program handle store
  have ends := run_ends schedule program handle store
  generalize run schedule program handle store = done at ends ⊢
  cases ends with
  | unready cause state =>
    obtain ⟨connection, known⟩ := ready
    cases state.symm.trans known
  | abandoned _ _ something | finished _ _ something => exact absurd nothing something
  | idle =>
    rw [ended_events, Journal.note, events]
    simp only [Event.exchanges_append, Event.exchanges_silent silent, List.append_nil]
    exact (List.append_nil _).trans (List.append_nil _)

/-- What a run makes of the statements that are collected, in the order in which they were
queued: before anything is sent the rejected ones have settled, the others wait. -/
structure Sifted (run : Run) (queue : List Issued) (told later : List Event) : Prop where
  events : run.journal.events = (awaited handle store).2.events ++ told ++ later
  silent : ∀ event ∈ told, event.isExchange = false
  queued : Event.queuedPlaces told = Issued.places queue
  collected : ∀ issued, issued ∈ queue ↔ Collected handle.options.mode program issued
  waiting : (sorted program handle store).1.map Pending.issued =
    queue.filter (·.runs handle.options.mode)
  rejected : ∀ issued cause, Collected handle.options.mode program issued →
    issued.statement.planned handle.options.mode = .error cause →
    (issued, .error cause) ∈ Event.settlements told ∧
    Settlement.outcomesAt issued.place (Event.settlements run.journal.events) = [.error cause]

theorem run_sifted {connection : Connection}
    (ready : (awaited handle store).1.connection = .ok connection) :
    ∃ queue told later,
      Sifted program handle store (run schedule program handle store) queue told later := by
  obtain ⟨told, events, silent, settled, queued⟩ := prepared_told program handle store
  obtain ⟨later, whole⟩ := run_extends_prepared schedule ready
  rw [events] at whole
  refine ⟨_, told, later, whole, silent, queued, fun issued => mem_gathered_iff, ?_, ?_⟩
  · rw [sorted_eq]
    exact (triage_gathered ..).1
  · intro issued cause collected refused
    have settles : (issued, .error cause) ∈ Event.settlements told := by
      rw [settled, sorted_eq]
      exact gathered_settles (mem_gathered_iff.mpr collected) refused
    refine ⟨settles, Settlement.outcomesAt_settled
      (run_settles schedule program handle store).distinct ?_⟩
    rw [whole, Event.settlements_append, Event.settlements_append]
    exact List.mem_append_left _ (List.mem_append_right _ settles)

theorem awaited_of_settled (settled : handle.state.isSettled = true) :
    (awaited handle store).2 = .start store := by
  have same : handle.takeNumber.2.state.isSettled = true := settled
  rw [awaited, Handle.settle, if_pos same]

/-- Statements that cannot be planned do not reach the store. Those that are collected
settle before anything is sent, the others start in the order of the queue, and neither a
request nor a new collection is due to a statement that was rejected. If all collected
statements are rejected, nothing is sent at all. -/
theorem rejected_statements_stay_out :
    (∀ connection, (awaited handle store).1.connection = .ok connection →
      ∃ queue told later,
        Sifted program handle store (run schedule program handle store) queue told later) ∧
    (∀ transaction later, begun program handle store = (.ok transaction, later) →
      ∃ (blocks : List (Pending × List (Issued × Event))) (others : List (Issued × Event)),
        blocks.map Prod.fst = (sorted program handle store).1 ∧
        (∀ block ∈ blocks, Starts transaction block.1 block.2) ∧
        requested schedule program handle store = blocks.flatMap Prod.snd ++ others) ∧
    Event.requests (run schedule program handle store).journal.events =
      (requested schedule program handle store).map Prod.snd ∧
    (∀ each ∈ requested schedule program handle store,
      ∃ transaction, (begun program handle store).1 = .ok transaction ∧
        Own handle.options.mode transaction each) ∧
    (∀ database collection,
      ((run schedule program handle store).journal.store.collection? database
        collection).isSome = true →
      ((awaited handle store).2.store.collection? database collection).isSome = true ∨
        database = handle.options.name ∧ ∃ issued plan,
          Collected handle.options.mode program issued ∧
          issued.statement.planned handle.options.mode = .ok plan ∧
          plan.collection = collection) ∧
    ((∃ connection, (awaited handle store).1.connection = .ok connection) →
      (∀ issued, Collected handle.options.mode program issued →
        ∃ cause, issued.statement.planned handle.options.mode = .error cause) →
      (run schedule program handle store).result = .ok () ∧
      (run schedule program handle store).handle = (awaited handle store).1 ∧
      (run schedule program handle store).journal.store = (awaited handle store).2.store ∧
      Event.exchanges (run schedule program handle store).journal.events =
        Event.exchanges (awaited handle store).2.events) ∧
    (handle.state.isSettled = true → (awaited handle store).2 = .start store) ∧
    ∀ statement : Statement, Keyless statement.sql.toList statement.params →
      ∃ cause, statement.planned handle.options.mode = .error cause :=
  ⟨fun _ => run_sifted schedule program handle store,
    fun _ _ => requested_starts schedule, run_requests schedule,
    fun _ => requested_own schedule, run_adds schedule program handle store,
    run_all_rejected schedule program handle store, awaited_of_settled handle store,
    fun _ keyless => keyless.unplanned handle.options.mode⟩

end Run

/-- A deletion without its key. -/
def keylessDeletion : Statement := ⟨"DELETE FROM t WHERE id = ?", [], none, none⟩

theorem keylessDeletion_collected {mode : CollectionMode} {issued : Issued}
    (collected : Collected mode [keylessDeletion] issued) :
    issued.statement = keylessDeletion := by
  induction collected with
  | setup member => rw [List.mem_singleton.mp member]
  | @rejected parent issued cause collected refused member ih =>
    rw [Issued.followers, Statement.callback, ih] at member
    cases member

theorem keyless_deletion_sends_nothing :
    (run .serial [keylessDeletion] readied (failing .commit)).result = .ok () ∧
      (run .serial [keylessDeletion] readied (failing .commit)).journal.store = failing .commit ∧
      Event.exchanges (run .serial [keylessDeletion] readied (failing .commit)).journal.events =
        [] := by
  obtain ⟨-, -, -, -, -, alone, settled, keyless⟩ :=
    rejected_statements_stay_out .serial [keylessDeletion] readied (failing .commit)
  have awaits : (awaited readied (failing .commit)).2 = .start (failing .commit) :=
    settled (by decide +kernel)
  have ready : ∃ connection, (awaited readied (failing .commit)).1.connection = .ok connection :=
    ⟨_, rfl⟩
  obtain ⟨success, -, kept, sent⟩ := alone ready fun issued collected => by
    rw [keylessDeletion_collected collected]
    exact keyless keylessDeletion (.inr ⟨rfl, rfl⟩)
  rw [awaits] at kept sent
  exact ⟨success, kept, sent⟩

end Transaction

end RecordSql
