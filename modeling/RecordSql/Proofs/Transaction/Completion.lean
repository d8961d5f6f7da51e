import RecordSql.Proofs.Handle.Stranding
import RecordSql.Proofs.Transaction.Coverage

/-!
How a run ends on a handle that is ready. Without faults a transaction of the
store that has begun is also committed, so a run fails only where its handle is
stranded. The handle is ready again, and no other handle has lost anything.
-/

namespace RecordSql

theorem Handle.strands_takeNumber {handle : Handle} {connection : Connection}
    {named : List String} {store : Store} :
    handle.takeNumber.2.Strands connection named store ↔
      handle.Strands connection named store := by
  constructor
  · rintro (⟨nothing, exhausted, absent⟩ | ⟨something, passed⟩ | ⟨something, taken, absent⟩)
    · exact .cut nothing exhausted absent
    · exact .outdated something passed
    · exact .uncovered something taken absent
  · rintro (⟨nothing, exhausted, absent⟩ | ⟨something, passed⟩ | ⟨something, taken, absent⟩)
    · exact .cut nothing exhausted absent
    · exact .outdated something passed
    · exact .uncovered something taken absent

namespace Transaction

variable (schedule : Schedule) (program : List Statement) (handle : Handle) (store : Store)

theorem awaited_moves :
    handle.Moves store (awaited handle store).1 (awaited handle store).2.store := by
  have moves := handle.takeNumber.2.settle_moves (.start store)
  exact ⟨moves.options, moves.onward, moves.spares, moves.own⟩

theorem begun_moves : (awaited handle store).1.Moves (awaited handle store).2.store
    (begun program handle store).2.1 (begun program handle store).2.2.store :=
  (awaited handle store).1.beginTransaction_moves (named program handle store)
    (prepared program handle store)

theorem run_moves :
    handle.Moves store (run schedule program handle store).handle
      (run schedule program handle store).journal.store := by
  have waits := awaited_moves handle store
  rcases run_follows schedule program handle store with ⟨same, sameStore⟩ | ⟨same, follows⟩
  · rw [same, sameStore]
    exact waits
  · rw [same]
    refine waits.trans (follows ((awaited handle store).1.Moves (awaited handle store).2.store
      (begun program handle store).2.1) ?_ (begun_moves program handle store))
    intro store command work moves
    refine moves.trans (.step _ store ?_)
    rintro identifier rfl
    cases work

theorem run_calm (calm : store.faults = []) :
    (run schedule program handle store).journal.store.faults = [] := by
  rcases run_follows schedule program handle store with ⟨-, same⟩ | ⟨-, follows⟩
  · rw [same]
    exact awaited_calm handle store calm
  · refine follows (fun store => store.faults = []) ?_ (begun_calm program handle store calm)
    intro store command work calm
    apply Store.step_calm calm
    rintro operation rfl
    cases work

variable {schedule} {program} {handle} {store}

/-- Requests leave their transaction running, so without faults it is committed. -/
theorem committed_ok {transaction : Nat} {later : Handle × Journal} {active : ActiveTransaction}
    (running : later.2.store.transactions.get? transaction = some active)
    (calm : later.2.store.faults = []) :
    (committed schedule program handle store transaction later).1 = .ok () := by
  have kept : (carried schedule program handle store transaction
        later).store.transactions.get? transaction = some active ∧
      (carried schedule program handle store transaction later).store.faults = [] := by
    refine runTasks_keeps (fun _ journal =>
      journal.store.transactions.get? transaction = some active ∧ journal.store.faults = [])
      ?_ ?_ _ _ ⟨running, calm⟩
    · rintro issued call rest journal ⟨running, calm⟩
      refine ⟨?_, Store.request_faults _ _ _ _ calm⟩
      simp only [Journal.send, Store.step]
      rwa [Store.request_transactions]
    · exact fun _ _ _ _ held => held
  have ends := Store.commit_ends
    (carried schedule program handle store transaction later).store transaction
  simp only [committed, Journal.send, Store.step]
  change ((carried schedule program handle store transaction later).store.commit
    transaction).1 = .ok ()
  generalize (carried schedule program handle store transaction later).store.commit
    transaction = reply at ends
  cases ends with
  | finished absent => cases absent.symm.trans kept.1
  | injected _ _ pending =>
    rw [kept.2] at pending
    cases pending
  | committed => rfl

theorem awaited_of_ready {connection : Connection} (ready : handle.state = .ready connection) :
    awaited handle store = (handle.takeNumber.2, .start store) := by
  have settled : handle.takeNumber.2.state.isSettled = true := by
    change handle.state.isSettled = true
    rw [ready]
    rfl
  rw [awaited, Handle.settle, if_pos settled]

theorem prepared_of_ready (program : List Statement) (store : Store) {connection : Connection}
    (ready : handle.state = .ready connection) :
    (prepared program handle store).store = store := by
  change (awaited handle store).2.store = store
  rw [awaited_of_ready ready]
  rfl

section Ready

variable {connection : Connection} (ready : handle.state = .ready connection)
  (calm : store.faults = [])
  (attached : connection.Attached handle.options.name store)
  (below : (store.database handle.options.name).version < 4294967295)

include ready calm attached below

theorem begun_isOk_iff (knows : connection.Knows handle.options.name store)
    (needs : named program handle store ≠ []) :
    (begun program handle store).1.isOk = true ↔
      ¬handle.Strands connection (named program handle store) store := by
  have base := prepared_of_ready program store ready
  rw [← Handle.strands_takeNumber, begun]
  rw [awaited_of_ready ready]
  rw [← base] at calm attached below knows
  have decides : (handle.takeNumber.2.beginTransaction (named program handle store)
        (prepared program handle store)).1.isOk = true ↔
      ¬handle.takeNumber.2.Strands connection (named program handle store)
        (prepared program handle store).store :=
    Handle.begin_isOk_iff ready (by simp [calm]) attached below knows needs
  rwa [base] at decides

theorem run_ready : ∃ later, (run schedule program handle store).handle.state =
    .ready later := by
  rcases run_follows schedule program handle store with ⟨same, -⟩ | ⟨same, -⟩
  · rw [same, awaited_of_ready ready]
    exact ⟨connection, ready⟩
  · have base := prepared_of_ready program store ready
    rw [same, begun, awaited_of_ready ready]
    rw [← base] at calm attached below
    have readied : ∃ later, (handle.takeNumber.2.beginTransaction (named program handle store)
        (prepared program handle store)).2.1.state = .ready later :=
      Handle.begin_ready ready (by simp [calm]) attached below
    exact readied

/-- A run answers that it was done, unless something had to be carried out and the
handle was stranded. -/
theorem run_ok_iff (knows : connection.Knows handle.options.name store) :
    (run schedule program handle store).result = .ok () ↔
      named program handle store = [] ∨
        ¬handle.Strands connection (named program handle store) store := by
  have decides : named program handle store ≠ [] →
      ((begun program handle store).1.isOk = true ↔
        ¬handle.Strands connection (named program handle store) store) :=
    begun_isOk_iff ready calm attached below knows
  have known : (awaited handle store).1.connection = .ok connection := by
    rw [awaited_of_ready ready]
    simp only [Handle.connection, Handle.takeNumber, ready]
  generalize ended : run schedule program handle store = done
  have ends := run_ends schedule program handle store
  rw [ended] at ends
  cases ends with
  | unready cause state => cases state.symm.trans known
  | idle _ _ nothing =>
    rw [ended_result]
    exact iff_of_true rfl (.inl (by rw [named, nothing, List.map_nil]))
  | abandoned _ _ something cause later failed =>
    have needs : named program handle store ≠ [] := by
      rw [named]
      exact fun nothing => something (List.map_eq_nil_iff.mp nothing)
    have fails := decides needs
    rw [failed] at fails
    rw [ended_result]
    apply iff_of_false
    · rintro ⟨⟩
    · rintro (nothing | fine)
      · exact needs nothing
      · cases fails.mpr fine
  | finished _ _ something transaction later began =>
    have needs : named program handle store ≠ [] := by
      rw [named]
      exact fun nothing => something (List.map_eq_nil_iff.mp nothing)
    have succeeds := decides needs
    have quiet := begun_calm program handle store calm
    rw [began] at succeeds quiet
    obtain ⟨covering, covered, -, -, begun⟩ := Handle.beginTransaction_ok began
    obtain ⟨database, -, running, -⟩ := Store.begin_ok begun
    rw [ended_result, committed_ok running quiet]
    exact iff_of_true rfl (.inr (succeeds.mp rfl))

end Ready

end Transaction

end RecordSql
