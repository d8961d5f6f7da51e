import RecordSql.Proofs.Store.Identifiers

/-!
Lifetimes of connections and transactions. Each lasts from the exchange that gives out
its number to the command that ends it, and no other command cuts it short or brings it
back. A transaction outlives the connection it was begun on: closing that connection shows
in nothing but what is begun on it afterwards.
-/

namespace RecordSql

/-- The command begins a transaction on this connection. -/
def Command.BeginsOn (command : Command) (connection : Nat) : Prop :=
  ∃ scope mode, command = .beginTransaction connection scope mode

namespace Store

/-- The command fails for a reason of this kind, and nothing comes of it. -/
def Refuses (store : Store) (command : Command) (kind : ErrorKind) : Prop :=
  ∃ cause, command.error? (store.step command).1 = some cause ∧ cause.kind = kind ∧
    (store.step command).2 = store

/-- A transaction that can no longer be used. -/
structure Finished (store : Store) (transaction : Nat) : Prop where
  requests : ∀ collection asked,
    store.Refuses (.request transaction collection asked) .transactionInactive
  commits : store.Refuses (.commit transaction) .invalidState

theorem finished_of_absent {store : Store} {transaction : Nat}
    (absent : store.transactions.get? transaction = none) : store.Finished transaction where
  requests := by
    intro collection asked
    have finished : store.request transaction collection asked =
        (.error .transactionFinished, store) := by
      simp only [request, absent]
    refine ⟨.transactionFinished, ?_, rfl, congrArg Prod.snd finished⟩
    exact congrArg Command.errorIn (congrArg Prod.fst finished)
  commits := by
    have finished : store.commit transaction = (.error .alreadyFinished, store) := by
      simp only [commit, absent]
    refine ⟨.alreadyFinished, ?_, rfl, congrArg Prod.snd finished⟩
    exact congrArg Command.errorIn (congrArg Prod.fst finished)

theorem begin_refused_of_absent {store : Store} {connection : Nat}
    (absent : store.connections.get? connection = none) (scope : List String)
    (mode : AccessMode) :
    store.Refuses (.beginTransaction connection scope mode) .invalidState := by
  have closed : store.beginTransaction connection scope mode =
      (.error .connectionClosed, store) := by
    simp only [beginTransaction, absent]
  refine ⟨.connectionClosed, ?_, rfl, congrArg Prod.snd closed⟩
  exact congrArg Command.errorIn (congrArg Prod.fst closed)

theorem open_registers {store : Store} {name : String} {version? : Option UInt32}
    {upgrade : UInt32 → UInt32 → Upgrade} {opened : Opened}
    (success : (store.openDatabase name version? upgrade).1.result = .ok opened) :
    (store.openDatabase name version? upgrade).2.connections.get? opened.connection =
      some name := by
  have ends := open_ends store name version? upgrade
  generalize store.openDatabase name version? upgrade = result at ends success
  cases ends with
  | injected | zero | outdated | aborted => cases success
  | upgraded | reopened =>
    cases success
    exact SortedMap.get?_insert_self _ _ _

/-- How long what a store keeps under its numbers lasts. -/
structure Tenure {Item : Type} (counter : Store → Nat) (held? : Store → Nat → Option Item)
    (Ends : Command → Nat → Prop) : Prop where
  onward : ∀ (store : Store) command, counter store ≤ counter (store.step command).2
  spared : ∀ (store : Store) command identifier, ¬Ends command identifier →
    identifier < counter store →
    held? (store.step command).2 identifier = held? store identifier
  ended : ∀ (store : Store) command identifier, Ends command identifier →
    held? (store.step command).2 identifier = none

section Tenure

variable {Item : Type} {counter : Store → Nat} {held? : Store → Nat → Option Item}
  {Ends : Command → Nat → Prop} (tenure : Tenure counter held? Ends)
  {store : Store} {identifier : Nat} (issued : identifier < counter store)

include tenure issued

/-- Until it is ended it stays as it is. -/
theorem Tenure.run_spared {history : List Command}
    (spared : ∀ command ∈ history, ¬Ends command identifier) :
    held? (store.run history) identifier = held? store identifier := by
  induction history generalizing store with
  | nil => rfl
  | cons command rest ih =>
    have later := ih (Nat.lt_of_lt_of_le issued (tenure.onward store command))
      fun other member => spared other (List.mem_cons_of_mem _ member)
    exact later.trans (tenure.spared store command identifier
      (spared command List.mem_cons_self) issued)

/-- Once it is gone it stays gone. -/
theorem Tenure.run_absent (absent : held? store identifier = none) (history : List Command) :
    held? (store.run history) identifier = none := by
  induction history generalizing store with
  | nil => exact absent
  | cons command rest ih =>
    apply ih (Nat.lt_of_lt_of_le issued (tenure.onward store command))
    by_cases ends : Ends command identifier
    · exact tenure.ended store command identifier ends
    · rw [tenure.spared store command identifier ends issued]
      exact absent

theorem Tenure.run_ended {ending : Command} (ends : Ends ending identifier)
    (history : List Command) : held? (store.run (ending :: history)) identifier = none :=
  tenure.run_absent (Nat.lt_of_lt_of_le issued (tenure.onward store ending))
    (tenure.ended store ending identifier ends) history

end Tenure

theorem connections_tenure :
    Tenure nextConnection (fun store => store.connections.get?)
      (fun command connection => command = .close connection) where
  onward := connections_numbered.onward
  spared := fun store _ _ spared issued => store.step_connection_eq spared issued
  ended := by
    rintro store command connection rfl
    exact SortedMap.get?_erase_self _ _

theorem transactions_tenure :
    Tenure nextTransaction (fun store => store.transactions.get?) Command.Ends where
  onward := transactions_numbered.onward
  spared := fun store _ _ spared issued => store.step_transaction_eq spared issued
  ended := by
    rintro store command transaction (rfl | rfl)
    · have ends := commit_ends store transaction
      simp only [step]
      generalize store.commit transaction = result at ends
      cases ends with
      | finished absent => exact absent
      | injected | committed => exact SortedMap.get?_erase_self _ _
    · exact SortedMap.get?_erase_self _ _

section Closing

variable {store : Store} {command : Command} {connection : Nat}

theorem erase_insert_next (issued : connection < store.nextConnection) (name : String) :
    (store.connections.erase connection).insert store.nextConnection name =
      (store.connections.insert store.nextConnection name).erase connection := by
  apply SortedMap.ext_get?
  intro other
  by_cases closed : other = connection
  · rw [closed, SortedMap.get?_insert_of_ne _ (Nat.ne_of_lt issued),
      SortedMap.get?_erase_self, SortedMap.get?_erase_self]
  · rw [SortedMap.get?_erase_of_ne _ closed, SortedMap.get?_insert, SortedMap.get?_insert,
      SortedMap.get?_erase_of_ne _ closed]

theorem close_comm (store : Store) (connection other : Nat) :
    (store.close connection).close other = (store.close other).close connection := by
  have same : (store.connections.erase connection).erase other =
      (store.connections.erase other).erase connection := by
    apply SortedMap.ext_get?
    intro third
    by_cases first : third = connection
    · by_cases second : third = other
      · rw [← first, ← second]
      · rw [SortedMap.get?_erase_of_ne _ second, first, SortedMap.get?_erase_self,
          SortedMap.get?_erase_self]
    · by_cases second : third = other
      · rw [SortedMap.get?_erase_of_ne _ first, second, SortedMap.get?_erase_self,
          SortedMap.get?_erase_self]
      · simp only [SortedMap.get?_erase_of_ne _ first, SortedMap.get?_erase_of_ne _ second]
  simp only [close, same]

theorem connect_close (issued : connection < store.nextConnection) (name : String) :
    (store.close connection).connect name =
      ((store.connect name).1, (store.connect name).2.close connection) := by
  simp only [connect, close, erase_insert_next issued]
  rfl

theorem connect_close_grown (issued : connection < store.nextConnection)
    (databases : SortedMap String Database) (name : String) :
    ({ store.close connection with databases } : Store).connect name =
      (({ store with databases } : Store).connect name |>.1,
        (({ store with databases } : Store).connect name).2.close connection) := by
  have grown : connection < ({ store with databases } : Store).nextConnection := issued
  exact connect_close grown name

theorem takeFault?_close (store : Store) (connection : Nat) (operation : Operation) :
    (store.close connection).takeFault? operation =
      (store.takeFault? operation).map fun later => later.close connection := by
  by_cases pending : operation ∈ store.faults
  · rw [takeFault?_of_mem store operation pending]
    exact takeFault?_of_mem (store.close connection) operation pending
  · rw [takeFault?_of_not_mem store operation pending]
    exact takeFault?_of_not_mem (store.close connection) operation pending

theorem openDatabase_close (issued : connection < store.nextConnection) (name : String)
    (version? : Option UInt32) (upgrade : UInt32 → UInt32 → Upgrade) :
    (store.close connection).openDatabase name version? upgrade =
      ((store.openDatabase name version? upgrade).1,
        (store.openDatabase name version? upgrade).2.close connection) := by
  have same : (store.close connection).database name = store.database name := rfl
  have schema : ∀ target, (store.close connection).schemaOf name target =
      store.schemaOf name target := fun _ => rfl
  simp only [openDatabase, takeFault?_close, same, schema, connect_close issued]
  cases store.takeFault? .openDatabase with
  | some later => rfl
  | none =>
    simp only [Option.map_none]
    -- No check that the open makes reads the connections.
    split
    · rfl
    · split
      · rfl
      · split
        · split
          · rfl
          · rw [connect_close_grown issued]
            rfl
        · rfl

theorem beginTransaction_close {other : Nat} (elsewhere : other ≠ connection)
    (scope : List String) (mode : AccessMode) :
    (store.close connection).beginTransaction other scope mode =
      ((store.beginTransaction other scope mode).1,
        (store.beginTransaction other scope mode).2.close connection) := by
  simp only [beginTransaction, close, SortedMap.get?_erase_of_ne _ elsewhere]
  cases store.connections.get? other with
  | none => rfl
  | some database =>
    dsimp only
    split
    case isTrue empty => rfl
    case isFalse =>
      simp only [Store.database]
      split <;> rfl

/-- A request finds its database through the transaction, not through the connection. -/
theorem request_close (store : Store) (connection transaction : Nat) (collection : String)
    (asked : Request) :
    (store.close connection).request transaction collection asked =
      ((store.request transaction collection asked).1,
        (store.request transaction collection asked).2.close connection) := by
  have fault := store.takeFault?_close connection (.request asked.kind)
  simp only [request]
  rw [fault]
  simp only [close, collection?]
  cases store.transactions.get? transaction with
  | none => rfl
  | some active =>
    dsimp only
    split
    case isTrue outside => rfl
    case isFalse =>
      split
      case isTrue unwritable => rfl
      case isFalse =>
        cases store.takeFault? (.request asked.kind) with
        | some later => rfl
        | none =>
          dsimp only [Option.map_none]
          split
          case h_1 => rfl
          case h_2 => split <;> rfl

theorem commit_close (store : Store) (connection transaction : Nat) :
    (store.close connection).commit transaction =
      ((store.commit transaction).1, (store.commit transaction).2.close connection) := by
  have fault := (store.abort transaction).takeFault?_close connection .commit
  simp only [close, abort] at fault
  simp only [commit, close, fault]
  cases store.transactions.get? transaction with
  | none => rfl
  | some active =>
    dsimp only
    cases takeFault? _ .commit <;> rfl

/-- It makes no difference whether a connection is closed before a command or after it,
unless the command begins a transaction on that very connection. -/
theorem step_close_comm (issued : connection < store.nextConnection)
    (elsewhere : ¬command.BeginsOn connection) :
    (store.close connection).step command =
      ((store.step command).1, (store.step command).2.close connection) := by
  cases command with
  | openDatabase name version? upgrade => exact openDatabase_close issued name version? upgrade
  | close other => exact congrArg (Prod.mk ()) (store.close_comm connection other)
  | beginTransaction other scope mode =>
    have differ : other ≠ connection := by
      rintro rfl
      exact elsewhere ⟨scope, mode, rfl⟩
    exact beginTransaction_close differ scope mode
  | request transaction collection asked =>
    exact store.request_close connection transaction collection asked
  | commit transaction => exact store.commit_close connection transaction
  | abort | inject | snapshot => rfl

theorem run_close_comm (issued : connection < store.nextConnection) {history : List Command}
    (elsewhere : ∀ command ∈ history, ¬command.BeginsOn connection) :
    (store.close connection).exchanges history = store.exchanges history ∧
      (store.close connection).run history = (store.run history).close connection := by
  induction history generalizing store with
  | nil => exact ⟨rfl, rfl⟩
  | cons command rest ih =>
    have first := step_close_comm issued (elsewhere command List.mem_cons_self)
    have still := Nat.lt_of_lt_of_le issued (connections_tenure.onward store command)
    obtain ⟨told, reached⟩ := ih still fun other member =>
      elsewhere other (List.mem_cons_of_mem _ member)
    simp only [exchanges, run, first]
    exact ⟨congrArg _ told, reached⟩

end Closing

/-- The history is too short to use up the numbers, of which there are 2 ^ 64 for
connections and as many for transactions. -/
structure NumbersSuffice (history : List Command) : Prop where
  opens : history.countP Command.isOpening ≤ lastIdentifier
  begins : history.countP Command.isBeginning ≤ lastIdentifier

theorem NumbersSuffice.earlier {early late : List Command}
    (suffice : NumbersSuffice (early ++ late)) : NumbersSuffice early := by
  obtain ⟨opens, begins⟩ := suffice
  rw [List.countP_append] at opens begins
  constructor <;> omega

section Issued

variable {history : List Command} (suffice : NumbersSuffice history)

include suffice

theorem opened_iff_issued (connection : Nat) :
    connection ∈ (empty.exchanges history).filterMap Exchange.opened? ↔
      connection < (empty.run history).nextConnection := by
  rw [connections_numbered.given suffice.opens, List.mem_range]

theorem begun_iff_issued (transaction : Nat) :
    transaction ∈ (empty.exchanges history).filterMap Exchange.begun? ↔
      transaction < (empty.run history).nextTransaction := by
  rw [transactions_numbered.given suffice.begins, List.mem_range]

theorem issued_of_begun {earlier : List Command} {connection : Nat} {scope : List String}
    {mode : AccessMode} {later : List Command} {transaction : Nat}
    (split : history = earlier ++ .beginTransaction connection scope mode :: later)
    (success : ((empty.run earlier).step (.beginTransaction connection scope mode)).1 =
      .ok transaction) :
    transaction < ((empty.run earlier).step
      (.beginTransaction connection scope mode)).2.nextTransaction := by
  rw [List.append_cons] at split
  subst split
  have issued := (begun_iff_issued suffice.earlier transaction).mp (by
    rw [exchanges_append, List.filterMap_append]
    apply List.mem_append_right
    exact List.mem_filterMap.mpr ⟨_, List.mem_singleton_self _, by rw [success]; rfl⟩)
  rw [run_append] at issued
  exact issued

theorem issued_of_opened {earlier : List Command} {name : String} {version? : Option UInt32}
    {upgrade : UInt32 → UInt32 → Upgrade} {later : List Command} {opened : Opened}
    (split : history = earlier ++ .openDatabase name version? upgrade :: later)
    (success : ((empty.run earlier).step (.openDatabase name version? upgrade)).1.result =
      .ok opened) :
    opened.connection < ((empty.run earlier).step
      (.openDatabase name version? upgrade)).2.nextConnection := by
  rw [List.append_cons] at split
  subst split
  have issued := (opened_iff_issued suffice.earlier opened.connection).mp (by
    rw [exchanges_append, List.filterMap_append]
    apply List.mem_append_right
    refine List.mem_filterMap.mpr ⟨_, List.mem_singleton_self _, ?_⟩
    simp only [Exchange.opened?, success])
  rw [run_append] at issued
  exact issued

end Issued

/-- What becomes of the connections and transactions of a history. -/
structure Lifetimes (history : List Command) : Prop where
  connectionsDistinct : ((empty.exchanges history).filterMap Exchange.opened?).Nodup
  transactionsDistinct : ((empty.exchanges history).filterMap Exchange.begun?).Nodup
  /-- A transaction that was committed or aborted is finished ever after. -/
  finished : ∀ earlier ending later transaction, history = earlier ++ ending :: later →
    transaction ∈ (empty.exchanges earlier).filterMap Exchange.begun? →
    ending.Ends transaction → (empty.run history).Finished transaction
  /-- On a connection that was closed nothing begins ever after. -/
  closed : ∀ earlier later connection, history = earlier ++ .close connection :: later →
    connection ∈ (empty.exchanges earlier).filterMap Exchange.opened? → ∀ scope mode,
      (empty.run history).Refuses (.beginTransaction connection scope mode) .invalidState
  /-- A transaction runs until it is itself committed or aborted. -/
  running : ∀ earlier connection scope mode later transaction,
    history = earlier ++ .beginTransaction connection scope mode :: later →
    ((empty.run earlier).step (.beginTransaction connection scope mode)).1 = .ok transaction →
    (∀ command ∈ later, ¬command.Ends transaction) →
    ∃ database, (empty.run earlier).connections.get? connection = some database ∧
      (empty.run history).transactions.get? transaction = some ⟨database, scope, mode⟩
  /-- A connection is open until it is itself closed. -/
  connected : ∀ earlier name version? upgrade later opened,
    history = earlier ++ .openDatabase name version? upgrade :: later →
    ((empty.run earlier).step (.openDatabase name version? upgrade)).1.result = .ok opened →
    .close opened.connection ∉ later →
    (empty.run history).connections.get? opened.connection = some name
  /-- To whoever begins nothing on a connection it makes no difference that it was closed. -/
  unnoticed : ∀ earlier later connection, history = earlier ++ later →
    connection ∈ (empty.exchanges earlier).filterMap Exchange.opened? →
    (∀ command ∈ later, ¬command.BeginsOn connection) →
    ((empty.run earlier).close connection).exchanges later =
      (empty.run earlier).exchanges later ∧
    ((empty.run earlier).close connection).run later = (empty.run history).close connection

/-- Of connections and transactions each lives its own life, as long as there are numbers
left to tell them apart. -/
theorem lifetimes_are_separate {history : List Command} (suffice : NumbersSuffice history) :
    Lifetimes history where
  connectionsDistinct := by
    rw [connections_numbered.given suffice.opens]
    exact List.nodup_range
  transactionsDistinct := by
    rw [transactions_numbered.given suffice.begins]
    exact List.nodup_range
  finished := by
    rintro earlier ending later transaction rfl begun ends
    have issued := (begun_iff_issued suffice.earlier transaction).mp begun
    apply finished_of_absent
    rw [run_append]
    exact transactions_tenure.run_ended issued ends later
  closed := by
    rintro earlier later connection rfl opened
    have issued := (opened_iff_issued suffice.earlier connection).mp opened
    apply begin_refused_of_absent
    rw [run_append]
    exact connections_tenure.run_ended issued rfl later
  running := by
    intro earlier connection scope mode later transaction split success spared
    have issued := issued_of_begun suffice split success
    subst split
    obtain ⟨database, reached, running, -⟩ := begin_ok (Prod.ext success rfl)
    refine ⟨database, reached, ?_⟩
    rw [run_append]
    exact (transactions_tenure.run_spared issued spared).trans running
  connected := by
    intro earlier name version? upgrade later opened split success spared
    have issued := issued_of_opened suffice split success
    subst split
    rw [run_append]
    refine (connections_tenure.run_spared issued ?_).trans (open_registers success)
    rintro command member rfl
    exact spared member
  unnoticed := by
    rintro earlier later connection rfl opened elsewhere
    have issued := (opened_iff_issued suffice.earlier connection).mp opened
    rw [run_append]
    exact run_close_comm issued elsewhere

/-- A connection that is closed while its transaction still runs. -/
def closedEarly : List Command :=
  [.openDatabase "shop" none fun _ _ => .createMissing ["orders"] .finish,
    .beginTransaction 0 ["orders"] .readWrite, .close 0, .commit 0,
    .request 0 "orders" .getAll]

theorem closed_early_is_finished :
    NumbersSuffice closedEarly ∧ Lifetimes closedEarly ∧
      (empty.run closedEarly).Finished 0 :=
  have suffice : NumbersSuffice closedEarly := ⟨by decide, by decide⟩
  have lifetimes := lifetimes_are_separate suffice
  ⟨suffice, lifetimes,
    lifetimes.finished (closedEarly.take 3) (.commit 0) _ 0 rfl (by decide) (.inl rfl)⟩

end Store

end RecordSql
