import RecordSql.Proofs.Handle.Mirror
import RecordSql.Proofs.Session.Coverage
import RecordSql.Proofs.Transaction.Dealings

/-!
Sessions in which runs take turns with whatever else is sent to the store. Each run gets a
transaction of its own, asks nothing of it once it is over, and leaves those of all others
as they are.
-/

namespace RecordSql

theorem Transaction.run_numbers (schedule : Schedule) (program : List Statement)
    (handle : Handle) (store : Store) :
    store.nextTransaction ≤
      (run schedule program handle store).journal.store.nextTransaction := by
  apply (run_steps schedule program).keeps fun later =>
    store.nextTransaction ≤ later.nextTransaction
  case keeps =>
    intro later command _ kept
    exact Nat.le_trans kept (Store.transactions_numbered.onward later command)
  case kept => exact Nat.le_refl _

theorem Transaction.run_fresh (schedule : Schedule) (program : List Statement)
    (handle : Handle) {store : Store} (fresh : store.Fresh) :
    (run schedule program handle store).journal.store.Fresh :=
  fresh.onward (run_deals schedule program handle fresh).transactions
    (run_numbers schedule program handle store)

/-- A history of a session. Handles may come and change in any way that does not reach the
store, and anything may be sent to the store past them, but nobody else begins a transaction
under the greatest number. -/
inductive Session.Shares (start : Session) : Session → Prop where
  | nothing : Shares start start
  | arranged {session other : Session} (earlier : Shares start session)
      (same : other.store = session.store) : Shares start other
  | settled {session : Session} (earlier : Shares start session) (identifier : HandleId) :
      Shares start (session.settle identifier)
  | ran {session : Session} (earlier : Shares start session) (schedule : Schedule)
      (program : List Statement) (identifier : HandleId) :
      Shares start (session.run schedule program identifier).2
  | sent {session : Session} (earlier : Shares start session) (command : Command)
      (left : command.isBeginning = true →
        session.store.nextTransaction < Store.lastIdentifier) :
      Shares start (session.send command).2

namespace Session

variable {start session : Session}

theorem Shares.fresh (shares : Shares start session) (fresh : start.store.Fresh) :
    session.store.Fresh := by
  induction shares with
  | nothing => exact fresh
  | arranged earlier same ih => rwa [same]
  | @settled session earlier identifier ih =>
    simp only [settle]
    cases session.handle? identifier with
    | none => exact ih
    | some handle =>
      have connects := handle.settle_connects (.start session.store)
      have untouched := (Transaction.Untouched.start session.store).connects connects
      exact ih.onward untouched.transactions (Nat.le_of_eq untouched.next.symm)
  | @ran session earlier schedule program identifier ih =>
    simp only [run]
    cases session.handle? identifier with
    | none => exact ih
    | some handle => exact Transaction.run_fresh schedule program handle ih
  | sent earlier command left ih => exact ih.step left

variable {identifier : HandleId} {handle : Handle}

/-- Every run deals only with the transaction that it has begun, while that is running, and
what runs in the store afterwards is what was running before. -/
theorem runs_leave_no_transaction_behind (shares : empty.Shares session)
    (found : session.handle? identifier = some handle) (schedule : Schedule)
    (program : List Statement) :
    (session.run schedule program identifier).1 =
        some (Transaction.run schedule program handle session.store) ∧
      Transaction.Deals session.store
        (Transaction.run schedule program handle session.store) ∧
      (session.run schedule program identifier).2.store.transactions =
        session.store.transactions := by
  have deals := Transaction.run_deals schedule program handle
    (shares.fresh Store.fresh_empty)
  have ran : session.run schedule program identifier =
      (some (Transaction.run schedule program handle session.store),
        session.update identifier (Transaction.run schedule program handle session.store).handle
          (Transaction.run schedule program handle session.store).journal.store) := by
    simp only [run, found]
  rw [ran]
  exact ⟨rfl, deals, deals.transactions⟩

/-- Somebody begins a transaction on the connection of the handle and does not end it. -/
def lingering : Session :=
  let opened := (empty.add (.new (.named "notes"))).2
  let grown := (opened.run .serial [inserting "t"] 0).2
  (grown.send (.beginTransaction 1 ["t"] .readWrite)).2

theorem lingering_shares : empty.Shares lingering := by
  have opened : empty.Shares (empty.add (.new (.named "notes"))).2 := .arranged .nothing rfl
  have grown := opened.ran .serial [inserting "t"] 0
  exact grown.sent _ fun _ => by decide +kernel

/-- The run begins and commits one transaction, and the other one lingers on. -/
theorem lingering_transaction_is_spared : ∃ handle,
    lingering.handle? 0 = some handle ∧
    Event.begun (Transaction.run .interleaved [inserting "t", inserting "t"] handle
      lingering.store).journal.events = [2] ∧
    Transaction.Deals lingering.store (Transaction.run .interleaved
      [inserting "t", inserting "t"] handle lingering.store) ∧
    (lingering.run .interleaved [inserting "t", inserting "t"] 0).2.store.transactions.keys =
      [1] := by
  have there : (lingering.handle? 0).isSome = true := by decide +kernel
  obtain ⟨handle, found⟩ := Option.isSome_iff_exists.mp there
  obtain ⟨ran, deals, same⟩ := runs_leave_no_transaction_behind lingering_shares found
    .interleaved [inserting "t", inserting "t"]
  have begun : (lingering.run .interleaved [inserting "t", inserting "t"] 0).1.map
      (fun done => Event.begun done.journal.events) = some [2] := by decide +kernel
  rw [ran, Option.map_some, Option.some.injEq] at begun
  refine ⟨handle, found, begun, deals, ?_⟩
  rw [same]
  decide +kernel

end Session

end RecordSql
