import RecordSql.Proofs.Transaction.Conduct
import RecordSql.Proofs.Transaction.Schedules

/-!
The queues of the two schedules side by side. A statement that is no update makes one
request and settles in its next turn. Under the serial schedule this is the turn right
after the request, under the interleaved one it comes when everybody else has made a
request. As settling does not touch the store, both schedules make the same requests in
the same order, and what the callbacks issue is queued in the same order too.
-/

namespace RecordSql

namespace Event

def exchanges (events : List Event) : List Event := events.filter isExchange

/-- Everything but the exchanges: what is queued, what settles, and so on. -/
def others (events : List Event) : List Event := events.filter fun event => !event.isExchange

@[simp]
theorem exchanges_append (left right : List Event) :
    exchanges (left ++ right) = exchanges left ++ exchanges right := List.filter_append ..

@[simp]
theorem others_append (left right : List Event) :
    others (left ++ right) = others left ++ others right := List.filter_append ..

theorem exchanges_silent {events : List Event}
    (silent : ∀ event ∈ events, event.isExchange = false) : exchanges events = [] := by
  apply List.filter_eq_nil_iff.mpr
  intro event member
  rw [silent event member]
  exact Bool.false_ne_true

theorem settlements_others (events : List Event) :
    settlements (others events) = settlements events := by
  induction events with
  | nil => rfl
  | cons first rest ih =>
    cases first with
    | settled issued outcome => exact congrArg ((issued, outcome) :: ·) ih
    | _ => exact ih

end Event

/-- Two journals with the same exchanges and the same other events, in whatever way
these are mixed. -/
structure Journal.Agrees (left right : Journal) : Prop where
  store : left.store = right.store
  exchanges : Event.exchanges left.events = Event.exchanges right.events
  others : Event.others left.events = Event.others right.events

namespace Journal.Agrees

variable {left right : Journal} {events : List Event}

theorem note (agrees : left.Agrees right) (events : List Event) :
    (left.note events).Agrees (right.note events) where
  store := agrees.store
  exchanges := by
    simp only [Journal.note, Event.exchanges_append, agrees.exchanges]
  others := by
    simp only [Journal.note, Event.others_append, agrees.others]

theorem reply (agrees : left.Agrees right) (command : Command) :
    (left.send command).1 = (right.send command).1 := by
  simp only [Journal.send, agrees.store]

theorem reply_of_note (agrees : left.Agrees (right.note events)) (command : Command) :
    (left.send command).1 = (right.send command).1 := agrees.reply command

theorem send (agrees : left.Agrees right) (command : Command) :
    (left.send command).2.Agrees (right.send command).2 where
  store := by simp only [Journal.send, agrees.store]
  exchanges := by
    simp only [Journal.send, Event.exchanges_append, agrees.exchanges, agrees.store]
  others := by
    simp only [Journal.send, Event.others_append, agrees.others]
    rfl

/-- An exchange and what is noted may change places. -/
theorem send_note (journal : Journal) (command : Command)
    (silent : ∀ event ∈ events, event.isExchange = false) :
    ((journal.note events).send command).2.Agrees ((journal.send command).2.note events) where
  store := rfl
  exchanges := by
    simp only [Journal.send, Journal.note, Event.exchanges_append, Event.exchanges_silent silent,
      List.append_nil]
  others := by
    have none : ∀ exchange, Event.others [.exchanged exchange] = [] := fun _ => rfl
    simp only [Journal.send, Journal.note, Event.others_append, none, List.append_nil]

theorem trans {last : Journal} (first : left.Agrees right) (second : right.Agrees last) :
    left.Agrees last where
  store := first.store.trans second.store
  exchanges := first.exchanges.trans second.exchanges
  others := first.others.trans second.others

end Journal.Agrees

/-- A statement that can be planned and is no update. -/
def Issued.Single (mode : CollectionMode) (issued : Issued) : Prop :=
  ∃ plan, issued.statement.planned mode = .ok plan ∧ plan.kind ≠ .update

instance (mode : CollectionMode) (issued : Issued) : Decidable (issued.Single mode) :=
  decidable_of_iff ((issued.statement.planned mode).toOption.any
      (fun plan => decide (plan.kind ≠ .update)) = true) (by
    rw [Issued.Single]
    cases issued.statement.planned mode <;> simp [Except.toOption])

theorem Plan.resume_done {plan : Plan} (single : plan.kind ≠ .update)
    (reply : Except StoreError plan.call.request.Answer) :
    ∃ outcome, plan.call.resume reply = .done outcome := by
  cases reply with
  | error cause => exact ⟨_, rfl⟩
  | ok answer =>
    cases plan with
    | insert | select | delete => exact ⟨_, rfl⟩
    | update => exact absurd rfl single

namespace Transaction

def doneTask (settlement : Settlement) : Task := ⟨settlement.1, .done settlement.2⟩

section Turns

variable (schedule : Schedule) (mode : CollectionMode) (transaction : Nat)

theorem runTasks_settle (issued : Issued) (outcome : Outcome) (rest : List Task)
    (journal : Journal) :
    runTasks schedule mode transaction (⟨issued, .done outcome⟩ :: rest) journal =
      runTasks schedule mode transaction
        (rest ++ (issued.followers outcome).map (Task.start mode))
        (journal.note (settling issued outcome)) := by
  rw [runTasks, ← settle_eq_note]

/-- Tasks that only have to settle do so one after the other under either schedule. -/
theorem runTasks_settleAll (settled : List Settlement) (behind : List Task)
    (journal : Journal) :
    runTasks schedule mode transaction (settled.map doneTask ++ behind) journal =
      runTasks schedule mode transaction
        (behind ++ (Settlement.followers settled).map (Task.start mode))
        (journal.note (settled.flatMap fun each => settling each.1 each.2)) := by
  induction settled generalizing behind journal with
  | nil =>
    rw [List.map_nil, List.nil_append, Settlement.followers, List.flatMap_nil, List.map_nil,
      List.append_nil, List.flatMap_nil, Journal.note, List.append_nil]
  | cons first rest ih =>
    rw [List.map_cons, List.cons_append, doneTask, runTasks_settle, List.append_assoc, ih]
    simp only [Settlement.followers, Journal.note, List.flatMap_cons, List.map_append,
      List.append_assoc]

/-- No task is forgotten: it has settled or it is waiting, until none is waiting. -/
theorem runTasks_settles (tasks : List Task) (journal : Journal) :
    ∃ later, Event.settlements (runTasks schedule mode transaction tasks journal).events =
        Event.settlements journal.events ++ later ∧
      ∀ task ∈ tasks, task.issued ∈ Settlement.issued later := by
  have kept : ∃ later, Event.settlements
        (runTasks schedule mode transaction tasks journal).events =
          Event.settlements journal.events ++ later ∧
      ∀ task ∈ tasks, task.issued ∈ Settlement.issued later ∨
        task.issued ∈ ([] : List Task).map Task.issued := by
    refine runTasks_keeps (fun waiting current => ∃ later,
      Event.settlements current.events = Event.settlements journal.events ++ later ∧
      ∀ task ∈ tasks, task.issued ∈ Settlement.issued later ∨
        task.issued ∈ waiting.map Task.issued) ?_ ?_ tasks journal ?_
    · rintro issued call rest current ⟨later, settled, all⟩
      refine ⟨later, (settlements_sent _ _).trans settled, ?_⟩
      intro task member
      rcases all task member with before | waits
      · exact .inl before
      · right
        cases schedule with
        | serial => exact waits
        | interleaved =>
          rw [Schedule.requeue, List.map_append]
          exact List.mem_append.mpr ((List.mem_cons.mp waits).symm.imp_right List.mem_singleton.mpr)
    · rintro issued outcome rest current ⟨later, settled, all⟩
      rw [settle_eq_note]
      refine ⟨later ++ [(issued, outcome)], ?_, ?_⟩
      · rw [Journal.note, Event.settlements_append, settled, settlements_settling,
          List.append_assoc]
      · intro task member
        rw [Settlement.issued_append, List.map_append]
        rcases all task member with before | waits
        · exact .inl (List.mem_append_left _ before)
        · rcases List.mem_cons.mp waits with same | further
          · exact .inl (List.mem_append_right _ (List.mem_singleton.mpr same))
          · exact .inr (List.mem_append_left _ further)
    · refine ⟨[], (List.append_nil _).symm, ?_⟩
      exact fun task member => .inr (List.mem_map_of_mem member)
  obtain ⟨later, settled, all⟩ := kept
  exact ⟨later, settled, fun task member => (all task member).resolve_right (by rintro ⟨⟩)⟩

/-- All that will settle are statements that can be planned and are no updates. -/
def SettlesSingles (tasks : List Task) (journal : Journal) : Prop :=
  ∀ later, Event.settlements (runTasks schedule mode transaction tasks journal).events =
    Event.settlements journal.events ++ later →
    ∀ issued ∈ Settlement.issued later, issued.Single mode

variable {schedule mode transaction} {tasks : List Task} {journal : Journal}

theorem SettlesSingles.single (singles : SettlesSingles schedule mode transaction tasks journal)
    {task : Task} (member : task ∈ tasks) : task.issued.Single mode := by
  obtain ⟨later, settled, all⟩ := runTasks_settles schedule mode transaction tasks journal
  exact singles later settled task.issued (all task member)

theorem SettlesSingles.go (singles : SettlesSingles schedule mode transaction tasks journal)
    {further : List Task} {after : Journal} (between : List Settlement)
    (same : runTasks schedule mode transaction tasks journal =
      runTasks schedule mode transaction further after)
    (settled : Event.settlements after.events = Event.settlements journal.events ++ between) :
    SettlesSingles schedule mode transaction further after := by
  intro later ends issued member
  rw [← same, settled, List.append_assoc] at ends
  apply singles _ ends issued
  rw [Settlement.issued_append]
  exact List.mem_append_right _ member

end Turns

/-- The two queues at the same moment. Some statements have settled under the serial
schedule and have only made their request under the interleaved one; after them comes
what their callbacks issue, or will issue. -/
def queue (schedule : Schedule) (mode : CollectionMode) (fresh : List Issued)
    (settled : List Settlement) : List Task :=
  fresh.map (Task.start mode) ++
    match schedule with
    | .serial => (Settlement.followers settled).map (Task.start mode)
    | .interleaved => settled.map doneTask

section Queues

variable {mode : CollectionMode} {transaction : Nat} {issued : Issued} {plan : Plan}
  {outcome : Outcome} {journal : Journal}

theorem start_planned (planned : issued.statement.planned mode = .ok plan) :
    Task.start mode issued = ⟨issued, .next plan.call⟩ := by
  simp only [Task.start, planned]

theorem runTasks_queue_serial (planned : issued.statement.planned mode = .ok plan)
    (answered : plan.call.resume (journal.send
      (.request transaction plan.call.collection plan.call.request)).1 = .done outcome)
    (rest : List Issued) (settled : List Settlement) :
    runTasks .serial mode transaction (queue .serial mode (issued :: rest) settled) journal =
      runTasks .serial mode transaction (queue .serial mode rest (settled ++ [(issued, outcome)]))
        ((journal.send (.request transaction plan.call.collection plan.call.request)).2.note
          (settling issued outcome)) := by
  have last : Settlement.followers [(issued, outcome)] = issued.followers outcome :=
    List.append_nil _
  simp only [queue, List.map_cons, List.cons_append, start_planned planned]
  rw [runTasks_next, answered, Schedule.requeue, runTasks_settle, Settlement.followers_append,
    last, List.map_append, List.append_assoc]

theorem runTasks_queue_interleaved (planned : issued.statement.planned mode = .ok plan)
    (answered : plan.call.resume (journal.send
      (.request transaction plan.call.collection plan.call.request)).1 = .done outcome)
    (rest : List Issued) (settled : List Settlement) :
    runTasks .interleaved mode transaction (queue .interleaved mode (issued :: rest) settled)
        journal =
      runTasks .interleaved mode transaction
        (queue .interleaved mode rest (settled ++ [(issued, outcome)]))
        (journal.send (.request transaction plan.call.collection plan.call.request)).2 := by
  simp only [queue, List.map_cons, List.cons_append, start_planned planned]
  rw [runTasks_next, answered, Schedule.requeue, List.map_append, List.append_assoc]
  rfl

/-- When everybody has made a request, all settle, and a new round begins. -/
theorem runTasks_queue_round (settled : List Settlement) :
    runTasks .interleaved mode transaction (queue .interleaved mode [] settled) journal =
      runTasks .interleaved mode transaction
        (queue .interleaved mode (Settlement.followers settled) [])
        (journal.note (settled.flatMap fun each => settling each.1 each.2)) := by
  have round := runTasks_settleAll .interleaved mode transaction settled [] journal
  simpa only [queue, List.map_nil, List.nil_append, List.append_nil] using round

theorem turns_followers_le (settled : List Settlement) :
    Issued.turns (Settlement.followers settled) + settled.length ≤
      Task.totalTurns (settled.map doneTask) := by
  induction settled with
  | nil => exact Nat.le_refl _
  | cons first rest ih =>
    have fewer := first.1.turns_followers_lt first.2
    simp only [Settlement.followers, List.flatMap_cons, Issued.turns_append, List.map_cons,
      Task.totalTurns, Task.turns, doneTask, Progress.requests_done, List.length_cons] at ih ⊢
    omega

theorem totalTurns_queue (fresh : List Issued) (settled : List Settlement) :
    Task.totalTurns (queue .interleaved mode fresh settled) =
      Task.totalTurns (fresh.map (Task.start mode)) + Task.totalTurns (settled.map doneTask) :=
  Task.totalTurns_append _ _

theorem totalTurns_round_lt (first : Settlement) (rest : List Settlement) :
    Task.totalTurns (queue .interleaved mode (Settlement.followers (first :: rest)) []) <
      Task.totalTurns (queue .interleaved mode [] (first :: rest)) := by
  have followers := turns_followers_le (first :: rest)
  have started := Task.totalTurns_start_le mode (Settlement.followers (first :: rest))
  simp only [totalTurns_queue, List.map_nil, Task.totalTurns, List.length_cons] at followers ⊢
  omega

theorem totalTurns_request_lt (planned : issued.statement.planned mode = .ok plan)
    (rest : List Issued) (settled : List Settlement) :
    Task.totalTurns (queue .interleaved mode rest (settled ++ [(issued, outcome)])) <
      Task.totalTurns (queue .interleaved mode (issued :: rest) settled) := by
  have asks : 0 < plan.call.requests := by
    cases plan with
    | insert | select | update | delete => simp [Plan.call, Call.requests]
  simp only [totalTurns_queue, List.map_append, Task.totalTurns_append, List.map_cons,
    List.map_nil, Task.totalTurns, start_planned planned, Task.turns, doneTask,
    Progress.requests_next, Progress.requests_done]
  omega

theorem start_mem_queue (schedule : Schedule) (rest : List Issued) (settled : List Settlement) :
    Task.start mode issued ∈ queue schedule mode (issued :: rest) settled :=
  List.mem_append_left _ (List.mem_map_of_mem (List.mem_cons_self ..))

theorem settleAll_silent (settled : List Settlement) :
    ∀ event ∈ settled.flatMap fun each => settling each.1 each.2, event.isExchange = false := by
  intro event member
  obtain ⟨each, -, inside⟩ := List.mem_flatMap.mp member
  exact settling_silent each.1 each.2 event inside

theorem settlements_settleAll (settled : List Settlement) :
    Event.settlements (settled.flatMap fun each => settling each.1 each.2) = settled := by
  induction settled with
  | nil => rfl
  | cons first rest ih =>
    rw [List.flatMap_cons, Event.settlements_append, settlements_settling, ih]
    rfl

end Queues

theorem note_note (journal : Journal) (first second : List Event) :
    (journal.note first).note second = journal.note (first ++ second) := by
  simp only [Journal.note, List.append_assoc]

section Agreement

variable {mode : CollectionMode} {transaction : Nat} {issued : Issued} {outcome : Outcome}
  {settled : List Settlement} {left right : Journal}

/-- The journals agree after one more request, which has settled its statement under the
serial schedule. -/
theorem agrees_settling
    (agrees : left.Agrees (right.note (settled.flatMap fun each => settling each.1 each.2)))
    (command : Command) :
    ((left.send command).2.note (settling issued outcome)).Agrees
      ((right.send command).2.note
        ((settled ++ [(issued, outcome)]).flatMap fun each => settling each.1 each.2)) := by
  have sent := (agrees.send command).trans
    (Journal.Agrees.send_note right command (settleAll_silent settled))
  have noted := sent.note (settling issued outcome)
  rw [note_note] at noted
  rw [List.flatMap_append, List.flatMap_singleton]
  exact noted

/-- By induction on the turns that are left. The journals of the two schedules agree
once all has settled that still has to settle under the interleaved one. -/
theorem runTasks_agree (fresh : List Issued) (settled : List Settlement)
    (agrees : left.Agrees (right.note (settled.flatMap fun each => settling each.1 each.2)))
    (singles : SettlesSingles .serial mode transaction (queue .serial mode fresh settled) left ∨
      SettlesSingles .interleaved mode transaction (queue .interleaved mode fresh settled)
        right) :
    (runTasks .serial mode transaction (queue .serial mode fresh settled) left).Agrees
      (runTasks .interleaved mode transaction (queue .interleaved mode fresh settled)
        right) := by
  generalize remaining : Task.totalTurns (queue .interleaved mode fresh settled) = turns
  induction turns using Nat.strongRecOn generalizing fresh settled left right with
  | ind turns ih =>
    subst remaining
    cases fresh with
    | cons issued rest =>
      have single : (Task.start mode issued).issued.Single mode := by
        rcases singles with serial | interleaved
        · exact serial.single (start_mem_queue .serial rest settled)
        · exact interleaved.single (start_mem_queue .interleaved rest settled)
      obtain ⟨plan, planned, noUpdate⟩ : issued.Single mode := single
      obtain ⟨outcome, answered⟩ := Plan.resume_done noUpdate (right.send
        (.request transaction plan.call.collection plan.call.request)).1
      have also : plan.call.resume (left.send
          (.request transaction plan.call.collection plan.call.request)).1 = .done outcome :=
        (congrArg plan.call.resume (agrees.reply_of_note _)).trans answered
      have serially := runTasks_queue_serial planned also rest settled
      have meanwhile := runTasks_queue_interleaved planned answered rest settled
      rw [serially, meanwhile]
      refine ih _ (totalTurns_request_lt planned rest settled) rest _
        (agrees_settling agrees _) ?_ rfl
      rcases singles with serial | interleaved
      · refine .inl (serial.go [(issued, outcome)] serially ?_)
        rw [Journal.note, Event.settlements_append, settlements_settling, settlements_sent]
      · refine .inr (interleaved.go [] meanwhile ?_)
        rw [settlements_sent, List.append_nil]
    | nil =>
      cases settled with
      | nil =>
        have last : (queue .serial mode [] [] : List Task) = [] := rfl
        have also : (queue .interleaved mode [] [] : List Task) = [] := rfl
        rw [last, also, runTasks, runTasks]
        rw [List.flatMap_nil, Journal.note, List.append_nil] at agrees
        exact agrees
      | cons first rest =>
        -- Under the serial schedule the round has begun already.
        have begun : queue .serial mode [] (first :: rest) =
            queue .serial mode (Settlement.followers (first :: rest)) [] :=
          (List.append_nil _).symm
        have round : runTasks .interleaved mode transaction
            (queue .interleaved mode [] (first :: rest)) right = _ :=
          runTasks_queue_round (first :: rest)
        rw [begun, round]
        refine ih _ (totalTurns_round_lt first rest) _ [] ?_ ?_ rfl
        · rw [List.flatMap_nil, note_note, List.append_nil]
          exact agrees
        · rcases singles with serial | interleaved
          · rw [begun] at serial
            exact .inl serial
          · refine .inr (interleaved.go (first :: rest) round ?_)
            rw [Journal.note, Event.settlements_append, settlements_settleAll]

end Agreement

end Transaction

end RecordSql
