import RecordSql.Proofs.Transaction.Schedules
import RecordSql.Proofs.Transaction.Trail

/-!
What a failed statement leaves behind. It could not be planned, or its transaction of
the store did not begin, or it has come its way through the run to a request that
failed. In none of these cases has it changed a database.
-/

namespace RecordSql

namespace Transaction

theorem triage_unplanned {mode : CollectionMode} {waiting : List Issued}
    {settlement : Settlement} (member : settlement ∈ Event.settlements (triage mode waiting).2) :
    ∃ cause, settlement.1.statement.planned mode = .error cause ∧
      settlement.2 = .error cause := by
  fun_induction triage mode waiting
  case case1 => cases member
  case case2 first rest plan valid pending later same ih =>
    rw [same] at ih
    exact ih member
  case case3 first rest cause invalid followers pending later same ih =>
    rw [same] at ih
    rw [Event.settlements_append] at member
    rcases List.mem_append.mp member with now | after
    · rcases List.mem_cons.mp now with rfl | queued
      · exact ⟨cause, invalid, rfl⟩
      · have nothing : Event.settlements (followers.map fun each => .queued each.place) = [] :=
          Event.settlements_queued followers
        have inside : settlement ∈
            Event.settlements (followers.map fun each => .queued each.place) := queued
        rw [nothing] at inside
        cases inside
    · exact ih after

section Run

variable (schedule : Schedule) (program : List Statement) (handle : Handle) (store : Store)

theorem prepared_note : ∃ events : List Event, (∀ event ∈ events, event.isExchange = false) ∧
    prepared program handle store = (awaited handle store).2.note events := by
  refine ⟨(.setup handle.takeNumber.1 :: (issuedAtSetup program).map fun each =>
    .queued each.place) ++ .moved .setupReturned :: (sorted program handle store).2, ?_, ?_⟩
  · intro event member
    rcases List.mem_append.mp member with issues | returned
    · rcases List.mem_cons.mp issues with rfl | queued
      · rfl
      · exact queue_silent _ event queued
    · rcases List.mem_cons.mp returned with rfl | settled
      · rfl
      · exact triage_silent _ _ event settled
  · simp [prepared, setUp, Journal.note, Journal.queue, Journal.move]

theorem awaited_replayed : (awaited handle store).2.store =
    Event.replay store (awaited handle store).2.events :=
  (awaited_continues handle store).sends.replay rfl

theorem prepared_replayed : (prepared program handle store).store =
    Event.replay store (prepared program handle store).events := by
  obtain ⟨events, silent, same⟩ := prepared_note program handle store
  rw [same]
  exact Journal.replay_note (awaited_replayed handle store) silent

theorem begun_replayed : (begun program handle store).2.2.store =
    Event.replay store (begun program handle store).2.2.events :=
  (begun_continues program handle store).sends.replay (prepared_replayed program handle store)

theorem awaited_isRequest : ∀ event ∈ (awaited handle store).2.events, event.isRequest = false :=
  (awaited_continues handle store).sends.isRequest
    (fun _ reply allowed => Handle.MaySend.isRequest reply allowed) (by rintro event ⟨⟩)

theorem prepared_isRequest :
    ∀ event ∈ (prepared program handle store).events, event.isRequest = false := by
  obtain ⟨events, silent, same⟩ := prepared_note program handle store
  rw [same]
  intro event member
  rcases List.mem_append.mp member with before | noted
  · exact awaited_isRequest handle store event before
  · exact Event.isRequest_silent (silent event noted)

/-- Until a transaction of the store has begun no record is asked for. -/
theorem begun_isRequest :
    ∀ event ∈ (begun program handle store).2.2.events, event.isRequest = false :=
  (begun_continues program handle store).sends.isRequest
    (fun _ reply allowed => Handle.MaySend.isRequest reply allowed)
    (prepared_isRequest program handle store)

theorem begun_unplanned (settlement : Settlement)
    (member : settlement ∈ Event.settlements (begun program handle store).2.2.events) :
    ∃ cause, settlement.1.statement.planned handle.options.mode = .error cause ∧
      settlement.2 = .error cause := by
  rw [settlements_begun] at member
  rw [← awaited_options handle store]
  exact triage_unplanned member

theorem committed_events (transaction : Nat) (later : Handle × Journal)
    (result : Except Failure Unit) : ∃ more : List Event,
      (ended later.1 (committed schedule program handle store transaction later).2
        result).journal.events =
        (carried schedule program handle store transaction later).events ++ more := by
  rw [ended_events]
  simp only [committed, Journal.send, Journal.note, List.append_assoc]
  exact ⟨_, rfl⟩

variable {program handle store} {transaction : Nat} {later : Handle × Journal}

theorem carried_tracks (began : begun program handle store = (.ok transaction, later)) :
    Tracks handle.options.mode transaction store []
      (carried schedule program handle store transaction later) := by
  have options := begun_options program handle store
  have replayed := begun_replayed program handle store
  have unplanned := begun_unplanned program handle store
  rw [began] at options replayed unplanned
  rw [carried, options]
  refine runTasks_tracks ⟨Journal.replay_note replayed (moves_silent _ _), ?_, ?_⟩
  · intro task member
    obtain ⟨pending, waits, rfl⟩ := List.mem_map.mp member
    have planned := triage_planned waits
    rw [awaited_options handle store] at planned
    simp only [Issued.StandsAt, Pending.task, planned]
    exact ⟨[], .still _⟩
  · intro settlement member
    rw [Journal.note, settlements_moved] at member
    obtain ⟨cause, failed, told⟩ := unplanned settlement member
    simp only [Issued.StandsAt, failed, told]

theorem abandoned_isRequest {cause : Failure}
    (failed : begun program handle store = (.error cause, later)) :
    ∀ event ∈ (later.2.note (.closed :: (sorted program handle store).1.flatMap fun each =>
      Transaction.abandoned cause each.issued)).events, event.isRequest = false := by
  have before := begun_isRequest program handle store
  rw [failed] at before
  intro event member
  rcases List.mem_append.mp member with begins | ends
  · exact before event begins
  · rcases List.mem_cons.mp ends with rfl | settled
    · rfl
    · exact Event.isRequest_silent (abandoned_silent cause _ event settled)

theorem ended_isRequest {journal : Journal} {result : Except Failure Unit}
    (none : ∀ event ∈ journal.events, event.isRequest = false) :
    ∀ event ∈ (ended handle journal result).journal.events, event.isRequest = false := by
  rw [ended_events]
  intro event member
  rcases List.mem_append.mp member with before | last
  · exact none event before
  · rcases List.mem_cons.mp last with rfl | told
    · rfl
    · rw [List.mem_singleton.mp told]
      cases result <;> rfl

/-- A statement that has failed could not be planned, or the run has asked for no
record at all, or each of its requests has left the databases alone. -/
theorem run_failed {issued : Issued} {cause : Failure}
    (member : (issued, .error cause) ∈
      Event.settlements (run schedule program handle store).journal.events) :
    issued.statement.planned handle.options.mode = .error cause ∨
    (∀ event ∈ (run schedule program handle store).journal.events, event.isRequest = false) ∨
    ∃ transaction later plan turns, begun program handle store = (.ok transaction, later) ∧
      issued.statement.planned handle.options.mode = .ok plan ∧
      Trail transaction store (.next plan.call)
        (run schedule program handle store).journal.events turns (.done (.error cause)) ∧
      ∀ turn ∈ turns, (turn.after transaction).databases = turn.before.databases := by
  generalize finished : run schedule program handle store = done at member ⊢
  have ends := run_ends schedule program handle store
  rw [finished] at ends
  cases ends with
  | unready other state =>
    rw [settlements_ended, Event.settlements_inner (awaited_inner handle store)] at member
    cases member
  | idle connection ready nothing =>
    rw [settlements_ended, Journal.note, Event.settlements_append, settlements_prepared,
      ← settlements_begun] at member
    rcases List.mem_append.mp member with before | closed
    · obtain ⟨other, failed, told⟩ := begun_unplanned program handle store _ before
      cases told
      exact .inl failed
    · cases closed
  | abandoned connection ready something other later failed =>
    exact .inr (.inl (ended_isRequest (abandoned_isRequest failed)))
  | finished connection ready something transaction later began =>
    rw [settlements_ended, settlements_committed] at member
    obtain ⟨more, events⟩ := committed_events schedule program handle store transaction later
      ((committed schedule program handle store transaction later).1.mapError .transactionFailed)
    have stands := ((carried_tracks schedule began).settled _ member).later more
    rw [← events] at stands
    unfold Issued.StandsAt at stands
    cases planned : issued.statement.planned handle.options.mode with
    | error other =>
      simp only [planned] at stands
      cases stands
      exact .inl rfl
    | ok plan =>
      simp only [planned] at stands
      obtain ⟨turns, trail⟩ := stands
      exact .inr (.inr ⟨transaction, later, plan, turns, began, rfl, trail,
        trail.unharmed (by rintro result ⟨⟩)⟩)

end Run

end Transaction

end RecordSql
