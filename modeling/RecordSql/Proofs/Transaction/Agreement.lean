import RecordSql.Proofs.Transaction.Queues

/-!
Runs without updates. Up to the moment at which a transaction of the store begins a run
does not depend on its schedule, and if all that is carried out then makes a single
request it does not depend on it later on either.
-/

namespace RecordSql

namespace Transaction

section Run

variable (schedule : Schedule) (program : List Statement) (handle : Handle) (store : Store)

/-- What has settled in the transaction of the store, in order. -/
def executed : List Settlement :=
  match begun program handle store with
  | (.ok transaction, later) =>
      (Event.settlements
        (carried schedule program handle store transaction later).events).drop
          (Event.settlements later.2.events).length
  | (.error _, _) => []

theorem pending_started : (sorted program handle store).1.map Pending.task =
    ((sorted program handle store).1.map Pending.issued).map
      (Task.start handle.options.mode) := by
  rw [List.map_map]
  apply List.map_congr_left
  intro pending member
  have planned := triage_planned member
  rw [awaited_options handle store] at planned
  exact (start_planned planned).symm

theorem pending_queue : (sorted program handle store).1.map Pending.task =
    queue schedule handle.options.mode ((sorted program handle store).1.map Pending.issued)
      [] := by
  rw [pending_started]
  cases schedule <;> exact (List.append_nil _).symm

variable {program handle store} {transaction : Nat} {later : Handle × Journal}

theorem run_finished {connection : Connection}
    (ready : (awaited handle store).1.connection = .ok connection)
    (something : (sorted program handle store).1 ≠ [])
    (began : begun program handle store = (.ok transaction, later)) :
    run schedule program handle store =
      ended later.1 (committed schedule program handle store transaction later).2
        ((committed schedule program handle store transaction later).1.mapError
          .transactionFailed) := by
  generalize finished : run schedule program handle store = done
  have ends := run_ends schedule program handle store
  rw [finished] at ends
  cases ends with
  | unready cause state => cases state.symm.trans ready
  | idle _ _ nothing => exact absurd nothing something
  | abandoned _ _ _ cause other failed => cases failed.symm.trans began
  | finished _ _ _ number other also =>
    cases also.symm.trans began
    rfl

variable (program handle store)

/-- The schedule matters only once a transaction of the store has begun. -/
theorem run_same_or_finished :
    run .serial program handle store = run .interleaved program handle store ∨
    ∃ transaction later, begun program handle store = (.ok transaction, later) ∧
      ∀ schedule, run schedule program handle store =
        ended later.1 (committed schedule program handle store transaction later).2
          ((committed schedule program handle store transaction later).1.mapError
            .transactionFailed) := by
  have serial := run_ends .serial program handle store
  have interleaved := run_ends .interleaved program handle store
  generalize first : run .serial program handle store = one at serial
  generalize second : run .interleaved program handle store = other at interleaved
  cases serial with
  | unready cause state =>
    cases interleaved with
    | unready _ also =>
      cases state.symm.trans also
      exact .inl rfl
    | idle _ ready | abandoned _ ready | finished _ ready => cases state.symm.trans ready
  | idle connection ready nothing =>
    cases interleaved with
    | unready _ state => cases state.symm.trans ready
    | idle => exact .inl rfl
    | abandoned _ _ something | finished _ _ something => exact absurd nothing something
  | abandoned connection ready something cause later failed =>
    cases interleaved with
    | unready _ state => cases state.symm.trans ready
    | idle _ _ nothing => exact absurd nothing something
    | abandoned _ _ _ _ _ also =>
      cases failed.symm.trans also
      exact .inl rfl
    | finished _ _ _ _ _ began => cases failed.symm.trans began
  | finished connection ready something transaction later began =>
    exact .inr ⟨transaction, later, began,
      fun schedule => run_finished schedule ready something began⟩

variable {program handle store}

theorem settlesSingles_of_executed (began : begun program handle store = (.ok transaction, later))
    (singles : ∀ issued ∈ Settlement.issued (executed schedule program handle store),
      issued.Single handle.options.mode) :
    SettlesSingles schedule handle.options.mode transaction
      (queue schedule handle.options.mode ((sorted program handle store).1.map Pending.issued) [])
      (later.2.note ((sorted program handle store).1.map fun _ => .moved .statementIssued)) := by
  have options := begun_options program handle store
  simp only [executed, began] at singles
  rw [began] at options
  rw [← pending_queue schedule program handle store]
  intro further ends
  rw [Journal.note, settlements_moved] at ends
  rw [carried, options, Journal.note, ends, List.drop_left] at singles
  exact singles

theorem carried_agrees (began : begun program handle store = (.ok transaction, later))
    (singles : ∀ issued ∈ Settlement.issued (executed schedule program handle store),
      issued.Single handle.options.mode) :
    (carried .serial program handle store transaction later).Agrees
      (carried .interleaved program handle store transaction later) := by
  have options := begun_options program handle store
  have settles : SettlesSingles .serial handle.options.mode transaction
        (queue .serial handle.options.mode ((sorted program handle store).1.map Pending.issued)
          [])
        (later.2.note ((sorted program handle store).1.map fun _ => .moved .statementIssued)) ∨
      SettlesSingles .interleaved handle.options.mode transaction
        (queue .interleaved handle.options.mode
          ((sorted program handle store).1.map Pending.issued) [])
        (later.2.note ((sorted program handle store).1.map fun _ => .moved .statementIssued)) := by
    cases schedule with
    | serial => exact .inl (settlesSingles_of_executed .serial began singles)
    | interleaved => exact .inr (settlesSingles_of_executed .interleaved began singles)
  rw [began] at options
  have start : ∀ journal : Journal, journal.Agrees (journal.note
      (([] : List Settlement).flatMap fun each => settling each.1 each.2)) := by
    intro journal
    rw [List.flatMap_nil, Journal.note, List.append_nil]
    exact ⟨rfl, rfl, rfl⟩
  have agrees := runTasks_agree ((sorted program handle store).1.map Pending.issued) []
    (start (later.2.note ((sorted program handle store).1.map fun _ => .moved .statementIssued)))
    settles
  rw [← pending_queue .serial program handle store,
    ← pending_queue .interleaved program handle store] at agrees
  rw [carried, carried, options]
  exact agrees

theorem ended_agrees {left right : Journal} (agrees : left.Agrees right)
    (result : Except Failure Unit) :
    (ended handle left result).journal.Agrees (ended handle right result).journal := by
  cases result with
  | ok value => exact (agrees.note [.moved .completed]).note [.completed]
  | error cause => exact (agrees.note [.moved (.errored cause)]).note [.failed cause]

/-- Runs in which all that is carried out makes a single request do not depend on the
schedule, and it does not matter either under which one this is known. -/
theorem run_agrees (singles : ∀ issued ∈ Settlement.issued (executed schedule program handle store),
      issued.Single handle.options.mode) :
    (run .serial program handle store).handle = (run .interleaved program handle store).handle ∧
      (run .serial program handle store).result =
        (run .interleaved program handle store).result ∧
      (run .serial program handle store).journal.Agrees
        (run .interleaved program handle store).journal := by
  rcases run_same_or_finished program handle store with same | ⟨transaction, later, began, ends⟩
  · rw [same]
    exact ⟨rfl, rfl, rfl, rfl, rfl⟩
  · have closed := (carried_agrees schedule began singles).note [.closed]
    have sent : (committed .serial program handle store transaction later).2.Agrees
        (committed .interleaved program handle store transaction later).2 :=
      closed.send (.commit transaction)
    have told : (committed .serial program handle store transaction later).1 =
        (committed .interleaved program handle store transaction later).1 :=
      closed.reply (.commit transaction)
    rw [ends .serial, ends .interleaved, told]
    refine ⟨?_, ?_, ended_agrees sent _⟩
    · rw [ended_handle, ended_handle]
    · rw [ended_result, ended_result]

end Run

/-- If all that is carried out can be planned and is no update, the two schedules make
the same requests with the same replies, settle the same statements with the same
outcomes and run their callbacks in the same order, and leave the same store behind,
whatever faults are pending. -/
theorem schedules_agree_without_updates (schedule : Schedule) (program : List Statement)
    (handle : Handle) (store : Store)
    (single : ∀ settlement ∈ executed schedule program handle store,
      settlement.1.Single handle.options.mode) :
    (run .serial program handle store).handle = (run .interleaved program handle store).handle ∧
    (run .serial program handle store).result =
      (run .interleaved program handle store).result ∧
    (run .serial program handle store).journal.store =
      (run .interleaved program handle store).journal.store ∧
    Event.exchanges (run .serial program handle store).journal.events =
      Event.exchanges (run .interleaved program handle store).journal.events ∧
    Event.settlements (run .serial program handle store).journal.events =
      Event.settlements (run .interleaved program handle store).journal.events ∧
    Event.others (run .serial program handle store).journal.events =
      Event.others (run .interleaved program handle store).journal.events := by
  have singles : ∀ issued ∈ Settlement.issued (executed schedule program handle store),
      issued.Single handle.options.mode := by
    intro issued member
    obtain ⟨settlement, inside, rfl⟩ := List.mem_map.mp member
    exact single settlement inside
  obtain ⟨handles, results, agrees⟩ := run_agrees schedule singles
  refine ⟨handles, results, agrees.store, agrees.exchanges, ?_, agrees.others⟩
  rw [← Event.settlements_others, agrees.others, Event.settlements_others]

/-- Two insertions, the first of which is made to fail, with what their callbacks
issue. -/
def nested : List Statement :=
  [⟨"INSERT INTO t (a) VALUES (?)", [.integer 1], none,
      some [⟨"DELETE FROM t WHERE id = ?", [.integer 1], none, none⟩]⟩,
    ⟨"INSERT INTO t (a) VALUES (?)", [.integer 2],
      some [⟨"SELECT * FROM t", [], none, none⟩], none⟩]

theorem nested_insertions_agree :
    (executed .serial nested (.new (.named "notes"))
      (Store.empty.inject (.request .add))).length = 4 ∧
    (run .serial nested (.new (.named "notes"))
        (Store.empty.inject (.request .add))).journal.store =
      (run .interleaved nested (.new (.named "notes"))
        (Store.empty.inject (.request .add))).journal.store := by
  have single : ∀ settlement ∈ executed .serial nested (.new (.named "notes"))
      (Store.empty.inject (.request .add)), settlement.1.Single .perStatement := by
    decide +kernel
  have agrees := schedules_agree_without_updates .serial nested (.new (.named "notes"))
    (Store.empty.inject (.request .add)) single
  exact ⟨by decide +kernel, agrees.2.2.1⟩

end Transaction

end RecordSql
