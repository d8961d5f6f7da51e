import RecordSql.Proofs.Store.Failures
import RecordSql.Proofs.Transaction.Conduct
import RecordSql.Proofs.Transaction.Rounds

/-!
The way of a statement through a run. A statement makes its requests one after the
other and goes on only if it was answered. A request that fails leaves the databases
alone, and so does the read of an update; on its way to a failure a statement has
therefore changed nothing, whatever others have done between its requests.
-/

namespace RecordSql

namespace Event

def after (store : Store) : Event → Store
  | .exchanged exchange => (store.step exchange.command).2
  | _ => store

/-- The store as a history leaves it. -/
def replay (store : Store) (events : List Event) : Store := events.foldl after store

theorem replay_append (store : Store) (early late : List Event) :
    replay store (early ++ late) = replay (replay store early) late := List.foldl_append

theorem replay_silent (store : Store) {events : List Event}
    (silent : ∀ event ∈ events, event.isExchange = false) : replay store events = store := by
  induction events with
  | nil => rfl
  | cons first rest ih =>
    have quiet : after store first = store := by
      cases first with
      | exchanged exchange => cases silent _ (List.mem_cons_self ..)
      | _ => rfl
    change replay (after store first) rest = store
    rw [quiet]
    exact ih fun event member => silent event (List.mem_cons_of_mem first member)

def isRequest : Event → Bool
  | .exchanged ⟨.request _ _ _, _⟩ => true
  | _ => false

theorem isRequest_silent {event : Event} (silent : event.isExchange = false) :
    event.isRequest = false := by
  cases event with
  | exchanged exchange => cases silent
  | _ => rfl

end Event

namespace Journal

variable {store : Store} {journal finish : Journal} {permitted : Command → Prop}

theorem replay_note (same : journal.store = Event.replay store journal.events)
    {events : List Event} (silent : ∀ event ∈ events, event.isExchange = false) :
    (journal.note events).store = Event.replay store (journal.note events).events := by
  refine same.trans (Eq.symm ((Event.replay_append store journal.events events).trans ?_))
  exact Event.replay_silent _ silent

theorem replay_send (same : journal.store = Event.replay store journal.events)
    (command : Command) :
    (journal.send command).2.store = Event.replay store (journal.send command).2.events := by
  refine Eq.symm ((Event.replay_append store journal.events _).trans ?_)
  rw [← same]
  rfl

theorem Sends.replay (sends : journal.Sends permitted finish)
    (same : journal.store = Event.replay store journal.events) :
    finish.store = Event.replay store finish.events := by
  induction sends with
  | nothing => exact same
  | another earlier command allowed ih => exact replay_send ih command

theorem Sends.isRequest (sends : journal.Sends permitted finish)
    (handles : ∀ command reply, permitted command →
      (Event.exchanged ⟨command, reply⟩).isRequest = false)
    (none : ∀ event ∈ journal.events, event.isRequest = false) :
    ∀ event ∈ finish.events, event.isRequest = false := by
  induction sends with
  | nothing => exact none
  | @another journal earlier command allowed ih =>
    intro event member
    rcases List.mem_append.mp member with before | sent
    · exact ih event before
    · rw [List.mem_singleton.mp sent]
      exact handles command _ allowed

end Journal

theorem Handle.MaySend.isRequest {name : String} {command : Command} (reply : command.Reply)
    (allowed : Handle.MaySend name command) :
    (Event.exchanged ⟨command, reply⟩).isRequest = false := by
  cases command with
  | request => cases allowed
  | _ => rfl

/-- A request of a statement and the store that it met. -/
structure Turn where
  call : Call
  before : Store

def Turn.after (transaction : Nat) (turn : Turn) : Store :=
  (turn.before.request transaction turn.call.collection turn.call.request).2

/-- The way of a statement through a history: it makes its next request of the store
as the history has left it, and goes on with the reply. -/
inductive Trail (transaction : Nat) (store : Store) (start : Progress) :
    List Event → List Turn → Progress → Prop where
  | still (events : List Event) : Trail transaction store start events [] start
  | turned {earlier : List Event} {turns : List Turn} {call : Call}
      (trail : Trail transaction store start earlier turns (.next call))
      (reply : Except StoreError call.request.Answer)
      (replied : ((Event.replay store earlier).request transaction call.collection
        call.request).1 = reply) (later : List Event) :
      Trail transaction store start
        (earlier ++
          .exchanged ⟨.request transaction call.collection call.request, reply⟩ :: later)
        (turns ++ [⟨call, Event.replay store earlier⟩]) (call.resume reply)

section Trail

variable {transaction : Nat} {store : Store} {start now : Progress} {events : List Event}
  {turns : List Turn}

theorem Trail.later (trail : Trail transaction store start events turns now)
    (more : List Event) : Trail transaction store start (events ++ more) turns now := by
  cases trail with
  | still => exact .still _
  | turned trail reply replied later =>
    rw [List.append_assoc, List.cons_append]
    exact .turned trail reply replied (later ++ more)

theorem Store.request_get_databases (store : Store) (transaction : Nat) (collection : String)
    (key : Key) :
    (store.request transaction collection (.get key)).2.databases = store.databases := by
  have ends := request_ends store transaction collection (.get key)
  generalize store.request transaction collection (.get key) = result at ends
  cases ends with
  | finished | uncovered | readOnly | injected | missing | rejected => rfl
  | answered active admitted calm held present answer changed success =>
    cases success
    exact congrArg Store.databases (hold_of_collection? store _ _ _ present)

/-- A request of a statement leaves the databases alone or carries the statement out. -/
theorem Call.spares_or_finishes (call : Call) (store : Store) (transaction : Nat) :
    (store.request transaction call.collection call.request).2.databases = store.databases ∨
    ∃ result, call.resume (store.request transaction call.collection call.request).1 =
      .done (.ok result) := by
  cases replied : (store.request transaction call.collection call.request).1 with
  | error cause => exact .inl (Store.request_unharmed replied).databases
  | ok answer =>
    cases call with
    | read collection key updates => exact .inl (Store.request_get_databases _ _ _ _)
    | insert | select | write | delete => exact .inr ⟨_, rfl⟩

/-- By induction on the requests: each but the last was answered and led to another
one, so it was the read of an update. -/
theorem Trail.unharmed (trail : Trail transaction store start events turns now)
    (unfinished : ∀ result, now ≠ .done (.ok result)) :
    ∀ turn ∈ turns, (turn.after transaction).databases = turn.before.databases := by
  induction trail with
  | still events =>
    intro turn member
    cases member
  | @turned earlier turns call trail reply replied later ih =>
    intro turn member
    rcases List.mem_append.mp member with before | last
    · exact ih (by rintro result ⟨⟩) turn before
    · rw [List.mem_singleton.mp last]
      rcases call.spares_or_finishes (Event.replay store earlier) transaction with
        spared | ⟨result, finished⟩
      · exact spared
      · rw [replied] at finished
        exact absurd finished (unfinished result)

end Trail

/-- Where a statement stands after a history. One that cannot be planned fails
without having made a request. -/
def Issued.StandsAt (mode : CollectionMode) (transaction : Nat) (store : Store)
    (events : List Event) (issued : Issued) (now : Progress) : Prop :=
  match issued.statement.planned mode with
  | .ok plan => ∃ turns, Trail transaction store (.next plan.call) events turns now
  | .error cause => now = .done (.error cause)

section StandsAt

variable {mode : CollectionMode} {transaction : Nat} {store : Store} {events : List Event}
  {issued : Issued} {now : Progress}

theorem Issued.StandsAt.later (stands : issued.StandsAt mode transaction store events now)
    (more : List Event) : issued.StandsAt mode transaction store (events ++ more) now := by
  unfold StandsAt at stands ⊢
  cases planned : issued.statement.planned mode with
  | ok plan =>
    simp only [planned] at stands ⊢
    obtain ⟨turns, trail⟩ := stands
    exact ⟨turns, trail.later more⟩
  | error cause =>
    simp only [planned] at stands ⊢
    exact stands

theorem Task.start_standsAt (mode : CollectionMode) (transaction : Nat) (store : Store)
    (events : List Event) (issued : Issued) :
    issued.StandsAt mode transaction store events (Task.start mode issued).progress := by
  simp only [Task.start, Issued.StandsAt]
  cases issued.statement.planned mode with
  | ok plan => exact ⟨[], .still events⟩
  | error cause => rfl

theorem Issued.StandsAt.resume {call : Call}
    (stands : issued.StandsAt mode transaction store events (.next call)) :
    issued.StandsAt mode transaction store
      (events ++ [.exchanged ⟨.request transaction call.collection call.request,
        ((Event.replay store events).request transaction call.collection call.request).1⟩])
      (call.resume
        ((Event.replay store events).request transaction call.collection call.request).1) := by
  unfold StandsAt at stands ⊢
  cases planned : issued.statement.planned mode with
  | ok plan =>
    simp only [planned] at stands ⊢
    obtain ⟨turns, trail⟩ := stands
    exact ⟨_, .turned trail _ rfl []⟩
  | error cause =>
    simp only [planned] at stands
    cases stands

end StandsAt

namespace Transaction

/-- What holds between two turns: every statement has come its way through the
journal. -/
structure Tracks (mode : CollectionMode) (transaction : Nat) (store : Store)
    (tasks : List Task) (journal : Journal) : Prop where
  replayed : journal.store = Event.replay store journal.events
  tasks : ∀ task ∈ tasks,
    task.issued.StandsAt mode transaction store journal.events task.progress
  settled : ∀ settlement ∈ Event.settlements journal.events,
    settlement.1.StandsAt mode transaction store journal.events (.done settlement.2)

theorem runTasks_tracks {schedule : Schedule} {mode : CollectionMode} {transaction : Nat}
    {store : Store} {tasks : List Task} {journal : Journal}
    (tracks : Tracks mode transaction store tasks journal) :
    Tracks mode transaction store [] (runTasks schedule mode transaction tasks journal) := by
  refine runTasks_keeps (Tracks mode transaction store) ?_ ?_ tasks journal tracks
  · intro issued call rest journal held
    refine ⟨Journal.replay_send held.replayed _, ?_, ?_⟩
    · intro task member
      rcases mem_requeue.mp member with rfl | waiting
      · have turned := (held.tasks _ (List.mem_cons_self ..)).resume
        rw [← held.replayed] at turned
        exact turned
      · exact (held.tasks task (List.mem_cons_of_mem _ waiting)).later _
    · rw [settlements_sent]
      exact fun settlement member => (held.settled settlement member).later _
  · intro issued outcome rest journal held
    rw [settle_eq_note]
    refine ⟨Journal.replay_note held.replayed (settling_silent issued outcome), ?_, ?_⟩
    · intro task member
      rcases List.mem_append.mp member with waiting | started
      · exact (held.tasks task (List.mem_cons_of_mem _ waiting)).later _
      · obtain ⟨follower, -, rfl⟩ := List.mem_map.mp started
        exact Task.start_standsAt mode transaction store _ follower
    · intro settlement member
      simp only [Journal.note, Event.settlements_append, settlements_settling] at member
      rcases List.mem_append.mp member with before | now
      · exact (held.settled settlement before).later _
      · rw [List.mem_singleton.mp now]
        exact (held.tasks _ (List.mem_cons_self ..)).later _

end Transaction

end RecordSql
