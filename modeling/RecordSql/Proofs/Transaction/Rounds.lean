import RecordSql.Proofs.Transaction.Coverage
import RecordSql.Proofs.Transaction.Halves

/-!
The turns of statements whose callbacks issue nothing, under either schedule.
The serial one takes both halves of a statement before the next one has its
turn. The interleaved one goes round: all the first halves, then the second
halves of the updates that write a record back.
-/

namespace RecordSql

/-- Neither callback issues a statement. -/
structure Statement.Alone (statement : Statement) : Prop where
  onSuccess : statement.onSuccess.getD [] = []
  onFailure : statement.onFailure.getD [] = []

theorem Issued.followers_of_alone {issued : Issued} (alone : issued.statement.Alone)
    (outcome : Outcome) : issued.followers outcome = [] := by
  cases outcome with
  | ok result =>
    simp only [followers, Statement.callback, alone.onSuccess]
    rfl
  | error cause =>
    simp only [followers, Statement.callback, alone.onFailure]
    rfl

namespace Transaction

variable (schedule : Schedule) (mode : CollectionMode) (transaction : Nat)

/-- The journal after a statement has settled whose callback issues nothing. -/
def concluded (issued : Issued) (outcome : Outcome) (journal : Journal) : Journal :=
  (((journal.settle issued outcome).queue []).move .statementSettled).note []

theorem settlements_concluded (issued : Issued) (outcome : Outcome) (journal : Journal) :
    Event.settlements (concluded issued outcome journal).events =
      Event.settlements journal.events ++ [(issued, outcome)] := by
  simp only [concluded, Journal.settle, Journal.queue, Journal.move, Journal.note,
    Event.settlements_append, List.map_nil]
  simp [Event.settlements, Event.settlement?]

theorem runTasks_done {issued : Issued} (alone : issued.statement.Alone) (outcome : Outcome)
    (rest : List Task) (journal : Journal) :
    runTasks schedule mode transaction (⟨issued, .done outcome⟩ :: rest) journal =
      runTasks schedule mode transaction rest (concluded issued outcome journal) := by
  rw [runTasks, Issued.followers_of_alone alone, List.map_nil, List.append_nil]
  rfl

theorem runTasks_next (issued : Issued) (call : Call) (rest : List Task) (journal : Journal) :
    runTasks schedule mode transaction (⟨issued, .next call⟩ :: rest) journal =
      runTasks schedule mode transaction
        (schedule.requeue ⟨issued, call.resume
          (journal.send (.request transaction call.collection call.request)).1⟩ rest)
        (journal.send (.request transaction call.collection call.request)).2 := by
  rw [runTasks]

theorem settlements_sent (journal : Journal) (command : Command) :
    Event.settlements (journal.send command).2.events = Event.settlements journal.events := by
  simp only [Journal.send, Event.settlements_append]
  exact List.append_nil _

def halfTask (half : Pending × Halfway) : Task := ⟨half.1.issued, half.2.progress⟩

theorem runTasks_firstHalf (pending : Pending) (rest : List Task) (journal : Journal) :
    ∃ later : Journal, later.store = (journal.store.firstHalf transaction pending.plan).2 ∧
      Event.settlements later.events = Event.settlements journal.events ∧
      runTasks schedule mode transaction (pending.task :: rest) journal =
        runTasks schedule mode transaction (schedule.requeue
          (halfTask (pending, (journal.store.firstHalf transaction pending.plan).1)) rest)
          later := by
  obtain ⟨progress, next⟩ :=
    Prod.mk.inj (journal.store.firstHalf_eq transaction pending.plan)
  refine ⟨(journal.send (.request transaction pending.plan.call.collection
    pending.plan.call.request)).2, next.symm, settlements_sent _ _, ?_⟩
  rw [Pending.task, runTasks_next, halfTask, progress]
  rfl

theorem runTasks_secondHalf (pending : Pending) (collection : String) (merged : Record)
    (rest : List Task) (journal : Journal) :
    ∃ later : Journal,
      later.store =
        (journal.store.secondHalf transaction (.writes collection merged)).2 ∧
      Event.settlements later.events = Event.settlements journal.events ∧
      runTasks schedule mode transaction
          (halfTask (pending, .writes collection merged) :: rest) journal =
        runTasks schedule mode transaction (schedule.requeue ⟨pending.issued, .done
          (journal.store.secondHalf transaction (.writes collection merged)).1⟩ rest)
          later := by
  obtain ⟨progress, next⟩ :=
    Prod.mk.inj (journal.store.secondHalf_eq transaction collection merged)
  refine ⟨(journal.send (.request transaction collection (.put merged))).2, next.symm,
    settlements_sent _ _, ?_⟩
  rw [progress]
  exact runTasks_next schedule mode transaction _ _ _ _

theorem runTasks_serial_half {pending : Pending} (alone : pending.issued.statement.Alone)
    (half : Halfway) (rest : List Task) (journal : Journal) :
    ∃ later : Journal, later.store = (journal.store.secondHalf transaction half).2 ∧
      Event.settlements later.events = Event.settlements journal.events ++
        [(pending.issued, (journal.store.secondHalf transaction half).1)] ∧
      runTasks .serial mode transaction (halfTask (pending, half) :: rest) journal =
        runTasks .serial mode transaction rest later := by
  cases half with
  | settled outcome =>
    exact ⟨concluded pending.issued outcome journal, rfl, settlements_concluded _ _ _,
      runTasks_done .serial mode transaction alone outcome rest journal⟩
  | writes collection merged =>
    obtain ⟨later, store, silent, wrote⟩ := runTasks_secondHalf .serial mode
      transaction pending collection merged rest journal
    refine ⟨concluded pending.issued _ later, store, ?_, wrote.trans
      (runTasks_done .serial mode transaction alone _ rest later)⟩
    rw [settlements_concluded, silent]

theorem runTasks_serial {waiting : List Pending}
    (alone : ∀ pending ∈ waiting, pending.issued.statement.Alone)
    (planned : ∀ pending ∈ waiting, pending.issued.statement.planned mode = .ok pending.plan)
    (journal : Journal) :
    (runTasks .serial mode transaction (waiting.map Pending.task) journal).store =
        (journal.store.executeAll mode transaction (waiting.map Pending.issued)).2 ∧
      Event.settlements
          (runTasks .serial mode transaction (waiting.map Pending.task) journal).events =
        Event.settlements journal.events ++
          (journal.store.executeAll mode transaction (waiting.map Pending.issued)).1 := by
  induction waiting generalizing journal with
  | nil =>
    rw [List.map_nil, runTasks]
    exact ⟨rfl, (List.append_nil _).symm⟩
  | cons pending rest ih =>
    obtain ⟨between, read, silent, first⟩ := runTasks_firstHalf .serial mode
      transaction pending (rest.map Pending.task) journal
    obtain ⟨later, wrote, told, second⟩ := runTasks_serial_half mode transaction
      (alone pending (List.mem_cons_self ..))
      (journal.store.firstHalf transaction pending.plan).1 (rest.map Pending.task) between
    obtain ⟨store, settlements⟩ := ih
      (fun each member => alone each (List.mem_cons_of_mem _ member))
      (fun each member => planned each (List.mem_cons_of_mem _ member)) later
    have head := journal.store.execute_planned transaction
      (planned pending (List.mem_cons_self ..))
    rw [read, ← head] at wrote told
    rw [List.map_cons, List.map_cons, first, Schedule.requeue, second,
      Store.executeAll_cons, ← wrote]
    refine ⟨store, ?_⟩
    rw [settlements, told, silent, List.append_assoc]
    rfl

section Interleaved

/-- All first halves come before any second half. -/
theorem runTasks_firstHalves (waiting : List Pending) (behind : List Task) (journal : Journal) :
    ∃ later : Journal, later.store = (journal.store.firstHalves transaction waiting).2 ∧
      Event.settlements later.events = Event.settlements journal.events ∧
      runTasks .interleaved mode transaction (waiting.map Pending.task ++ behind) journal =
        runTasks .interleaved mode transaction (behind ++
          (journal.store.firstHalves transaction waiting).1.map halfTask) later := by
  induction waiting generalizing behind journal with
  | nil =>
    refine ⟨journal, rfl, rfl, ?_⟩
    simp only [Store.firstHalves, List.map_nil, List.append_nil, List.nil_append]
  | cons pending rest ih =>
    obtain ⟨between, read, silent, first⟩ := runTasks_firstHalf .interleaved mode
      transaction pending (rest.map Pending.task ++ behind) journal
    obtain ⟨later, store, quiet, others⟩ := ih (behind ++
      [halfTask (pending, (journal.store.firstHalf transaction pending.plan).1)]) between
    rw [read] at store others
    refine ⟨later, store, quiet.trans silent, ?_⟩
    rw [List.map_cons, List.cons_append, first, Schedule.requeue, List.append_assoc, others,
      List.append_assoc]
    rfl

theorem runTasks_tellers {settled : List Settlement}
    (alone : ∀ settlement ∈ settled, settlement.1.statement.Alone) (journal : Journal) :
    (runTasks schedule mode transaction
        (settled.map fun settlement => ⟨settlement.1, .done settlement.2⟩) journal).store =
        journal.store ∧
      Event.settlements (runTasks schedule mode transaction
        (settled.map fun settlement => ⟨settlement.1, .done settlement.2⟩) journal).events =
        Event.settlements journal.events ++ settled := by
  induction settled generalizing journal with
  | nil =>
    rw [List.map_nil, runTasks]
    exact ⟨rfl, (List.append_nil _).symm⟩
  | cons first rest ih =>
    obtain ⟨store, settlements⟩ := ih
      (fun each member => alone each (List.mem_cons_of_mem _ member))
      (concluded first.1 first.2 journal)
    rw [List.map_cons, runTasks_done schedule mode transaction
      (alone first (List.mem_cons_self ..))]
    refine ⟨store, ?_⟩
    rw [settlements, settlements_concluded, List.append_assoc]
    rfl

/-- What has settled in its first half tells it at once; what writes a record
back tells it after the others. -/
theorem runTasks_secondHalves {halves : List (Pending × Halfway)} (behind : List Settlement)
    (alone : ∀ half ∈ halves, half.1.issued.statement.Alone)
    (aloneBehind : ∀ settlement ∈ behind, settlement.1.statement.Alone) (journal : Journal) :
    (runTasks .interleaved mode transaction (halves.map halfTask ++
        behind.map fun settlement => ⟨settlement.1, .done settlement.2⟩) journal).store =
        (journal.store.secondHalves transaction halves).2 ∧
      (Event.settlements (runTasks .interleaved mode transaction (halves.map halfTask ++
        behind.map fun settlement => ⟨settlement.1, .done settlement.2⟩) journal).events).Perm
        (Event.settlements journal.events ++ (behind ++
          (journal.store.secondHalves transaction halves).1)) := by
  induction halves generalizing behind journal with
  | nil =>
    obtain ⟨store, settlements⟩ := runTasks_tellers .interleaved mode transaction
      aloneBehind journal
    refine ⟨store, .of_eq ?_⟩
    rw [Store.secondHalves, List.append_nil]
    exact settlements
  | cons first rest ih =>
    obtain ⟨pending, half⟩ := first
    have lonely := alone _ (List.mem_cons_self ..)
    have others := fun each member => alone each (List.mem_cons_of_mem (pending, half) member)
    cases half with
    | settled outcome =>
      obtain ⟨store, settlements⟩ := ih behind others aloneBehind
        (concluded pending.issued outcome journal)
      have done := runTasks_done .interleaved mode transaction lonely outcome (rest.map halfTask ++
          behind.map fun settlement => ⟨settlement.1, .done settlement.2⟩) journal
      rw [List.map_cons, List.cons_append, halfTask, Halfway.progress, done]
      refine ⟨store, settlements.trans ?_⟩
      rw [settlements_concluded, List.append_assoc]
      have front : ((pending.issued, outcome) :: (behind ++
          (journal.store.secondHalves transaction rest).1)).Perm
          (behind ++ (pending.issued, outcome) ::
            (journal.store.secondHalves transaction rest).1) := List.perm_middle.symm
      exact front.append_left _
    | writes collection merged =>
      -- It has settled with this turn, but tells it in the next round.
      obtain ⟨later, wrote, silent, second⟩ := runTasks_secondHalf .interleaved mode
        transaction pending collection merged
        (rest.map halfTask ++ behind.map fun settlement => ⟨settlement.1, .done settlement.2⟩)
        journal
      obtain ⟨store, settlements⟩ := ih (behind ++ [(pending.issued,
          (journal.store.secondHalf transaction (.writes collection merged)).1)])
        others (fun each member => by
          rcases List.mem_append.mp member with before | last
          · exact aloneBehind each before
          · rw [List.mem_singleton.mp last]
            exact lonely) later
      rw [wrote, silent, List.append_assoc] at settlements
      rw [wrote, List.map_append, ← List.append_assoc] at store
      rw [List.map_append, ← List.append_assoc] at settlements
      rw [List.map_cons, List.cons_append, second, Schedule.requeue]
      exact ⟨store, settlements⟩

end Interleaved

section Triage

variable {waiting : List Issued}
    (alone : ∀ issued ∈ waiting, issued.statement.Alone)

include alone

theorem triage_perm :
    (Settlement.issued (Event.settlements (triage mode waiting).2) ++
      (triage mode waiting).1.map Pending.issued).Perm waiting := by
  fun_induction triage mode waiting
  case case1 => exact .nil
  case case2 first rest plan valid others later same ih =>
    rw [same] at ih
    have kept := ih fun each inside => alone each (List.mem_cons_of_mem _ inside)
    exact List.perm_middle.trans (kept.cons first)
  case case3 first rest cause invalid followers others later same ih =>
    have nothing : followers = [] :=
      Issued.followers_of_alone (alone first (List.mem_cons_self ..)) (.error cause)
    rw [same, nothing, List.append_nil] at ih
    have kept := ih fun each inside => alone each (List.mem_cons_of_mem _ inside)
    rw [nothing]
    exact kept.cons first

theorem mem_of_triage {mode : CollectionMode} {pending : Pending}
    (member : pending ∈ (triage mode waiting).1) : pending.issued ∈ waiting :=
  (triage_perm mode alone).mem_iff.mp (List.mem_append_right _ (List.mem_map_of_mem member))

/-- Statements that cannot be planned do not matter to the others, so whether
they settle first or in their turn makes no difference. -/
theorem executeAll_triage (store : Store) :
    (store.executeAll mode transaction waiting).2 =
        (store.executeAll mode transaction ((triage mode waiting).1.map Pending.issued)).2 ∧
      (store.executeAll mode transaction waiting).1.Perm
        (Event.settlements (triage mode waiting).2 ++
          (store.executeAll mode transaction
            ((triage mode waiting).1.map Pending.issued)).1) := by
  fun_induction triage mode waiting generalizing store
  case case1 => exact ⟨rfl, .nil⟩
  case case2 first rest plan valid others later same ih =>
    obtain ⟨final, settlements⟩ := ih
      (fun each inside => alone each (List.mem_cons_of_mem _ inside))
      (store.execute mode transaction first).2
    rw [same] at final settlements
    refine ⟨final, ?_⟩
    exact (settlements.cons _).trans List.perm_middle.symm
  case case3 first rest cause invalid followers others later same ih =>
    have nothing : followers = [] :=
      Issued.followers_of_alone (alone first (List.mem_cons_self ..)) (.error cause)
    rw [same, nothing, List.append_nil] at ih
    obtain ⟨final, settlements⟩ := ih
      (fun each inside => alone each (List.mem_cons_of_mem _ inside)) store
    rw [Store.executeAll_cons, store.execute_refused transaction invalid, nothing]
    exact ⟨final, settlements.cons (first, .error cause)⟩

theorem executeAll_rejected (store : Store) :
    store.executeAll mode transaction
        (Settlement.issued (Event.settlements (triage mode waiting).2)) =
      (Event.settlements (triage mode waiting).2, store) := by
  fun_induction triage mode waiting
  case case1 => rfl
  case case2 first rest plan valid others later same ih =>
    rw [same] at ih
    exact ih fun each inside => alone each (List.mem_cons_of_mem _ inside)
  case case3 first rest cause invalid followers others later same ih =>
    have nothing : followers = [] :=
      Issued.followers_of_alone (alone first (List.mem_cons_self ..)) (.error cause)
    rw [same, nothing, List.append_nil] at ih
    have kept := ih fun each inside => alone each (List.mem_cons_of_mem _ inside)
    rw [nothing]
    change store.executeAll mode transaction
      (first :: Settlement.issued (Event.settlements later)) = _
    rw [Store.executeAll_cons, store.execute_refused transaction invalid, kept]
    rfl

end Triage

end Transaction

end RecordSql
