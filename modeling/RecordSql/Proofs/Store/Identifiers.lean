import RecordSql.Proofs.Store.Steps

/-!
Identifiers. A store numbers its connections and its transactions from zero on, with a
counter for each. The greatest number, once reached, is given out again and again; up to
then every number is given out once.
-/

namespace RecordSql

/-- The identifier of the connection that an exchange has opened. -/
def Exchange.opened? : Exchange → Option Nat
  | ⟨.openDatabase _ _ _, opening⟩ =>
      match opening.result with
      | .ok opened => some opened.connection
      | .error _ => none
  | _ => none

/-- The identifier of the transaction that an exchange has begun. -/
def Exchange.begun? : Exchange → Option Nat
  | ⟨.beginTransaction _ _ _, .ok transaction⟩ => some transaction
  | _ => none

namespace Command

def isOpening : Command → Bool
  | .openDatabase _ _ _ => true
  | _ => false

def isBeginning : Command → Bool
  | .beginTransaction _ _ _ => true
  | _ => false

/-- The command ends this transaction, whether or not that succeeds. -/
def Ends (command : Command) (transaction : Nat) : Prop :=
  command = .commit transaction ∨ command = .abort transaction

end Command

namespace Store

/-- The identifier that is given out again and again once it is reached. -/
def lastIdentifier : Nat := 18446744073709551615

theorem le_following (identifier : Nat) : identifier ≤ following identifier := by
  simp only [following]
  split <;> omega

theorem lt_following {identifier : Nat} (left : identifier < lastIdentifier) :
    identifier < following identifier := by
  simp only [lastIdentifier] at left
  simp only [following, if_pos left]
  omega

theorem following_eq {identifier : Nat} (left : identifier < lastIdentifier) :
    following identifier = identifier + 1 := if_pos left

/-- Nothing but closing it touches a connection that was given out. -/
theorem step_connection_eq (store : Store) {command : Command} {identifier : Nat}
    (spared : command ≠ .close identifier) (issued : identifier < store.nextConnection) :
    (store.step command).2.connections.get? identifier =
      store.connections.get? identifier := by
  have registers := store.step_registers command
  generalize (store.step command).2 = later at registers
  cases registers with
  | same _ _ connections => rw [connections]
  | opened _ _ _ _ connections =>
    rw [connections, SortedMap.get?_insert_of_ne _ (Nat.ne_of_lt issued)]
  | closed connection =>
    have differ : identifier ≠ connection := fun same => spared (congrArg _ same.symm)
    exact SortedMap.get?_erase_of_ne _ differ

section Histories

variable (store : Store) (early late : List Command)

theorem run_append : store.run (early ++ late) = (store.run early).run late := by
  induction early generalizing store with
  | nil => rfl
  | cons command rest ih => exact ih (store.step command).2

theorem exchanges_append : store.exchanges (early ++ late) =
    store.exchanges early ++ (store.run early).exchanges late := by
  induction early generalizing store with
  | nil => rfl
  | cons command rest ih =>
    exact congrArg (⟨command, (store.step command).1⟩ :: ·) (ih (store.step command).2)

end Histories

/-- The numbers that a counter gives out one after the other, and where it stands then. -/
inductive Counts : Nat → List Nat → Nat → Prop where
  | still (next : Nat) : Counts next [] next
  | given {next last : Nat} {rest : List Nat} (further : Counts (following next) rest last) :
      Counts next (next :: rest) last

/-- Until the greatest number is reached they are consecutive. -/
theorem Counts.consecutive {next last : Nat} {numbers : List Nat}
    (counts : Counts next numbers last) (left : next + numbers.length ≤ lastIdentifier) :
    numbers = List.range' next numbers.length ∧ last = next + numbers.length := by
  induction counts with
  | still next => exact ⟨rfl, rfl⟩
  | @given next last rest further ih =>
    simp only [List.length_cons] at left ⊢
    have follows : following next = next + 1 := following_eq (by omega)
    rw [follows] at ih
    obtain ⟨same, stands⟩ := ih (by omega)
    exact ⟨by rw [List.range'_succ, ← same], by omega⟩

/-- What a counter of the store numbers: `given?` is the number that an exchange gives
out, which it does only if its command `asks` for one. -/
structure Numbering (counter : Store → Nat) (given? : Exchange → Option Nat)
    (asks : Command → Bool) : Prop where
  start : counter empty = 0
  step : ∀ store command,
    (given? ⟨command, (store.step command).1⟩ = none ∧
      counter (store.step command).2 = counter store) ∨
    (asks command = true ∧
      given? ⟨command, (store.step command).1⟩ = some (counter store) ∧
      counter (store.step command).2 = following (counter store))

theorem connections_numbered :
    Numbering Store.nextConnection Exchange.opened? Command.isOpening where
  start := rfl
  step := by
    intro store command
    cases command with
    | openDatabase name version? upgrade =>
      have ends := open_ends store name version? upgrade
      simp only [Store.step]
      generalize store.openDatabase name version? upgrade = result at ends
      cases ends with
      | injected | zero | outdated | aborted => exact .inl ⟨rfl, rfl⟩
      | upgraded calm positive newer success grownStore grows =>
        subst grows
        exact .inr ⟨rfl, rfl, rfl⟩
      | reopened => exact .inr ⟨rfl, rfl, rfl⟩
    | beginTransaction connection scope mode =>
      have ends := begin_ends store connection scope mode
      simp only [Store.step]
      generalize store.beginTransaction connection scope mode = result at ends
      cases ends with
      | closed | empty | missing | begun => exact .inl ⟨rfl, rfl⟩
    | request transaction collection asked =>
      have ends := request_ends store transaction collection asked
      simp only [Store.step]
      generalize store.request transaction collection asked = result at ends
      cases ends with
      | finished | uncovered | readOnly | injected | missing | rejected | answered =>
        exact .inl ⟨rfl, rfl⟩
    | commit transaction =>
      have ends := commit_ends store transaction
      simp only [Store.step]
      generalize store.commit transaction = result at ends
      cases ends with
      | finished | injected | committed => exact .inl ⟨rfl, rfl⟩
    | close | abort | inject | snapshot => exact .inl ⟨rfl, rfl⟩

/-- What an exchange does to the transactions of a store. -/
inductive Enlists (store : Store) : Exchange → Store → Prop where
  | same (exchange : Exchange) (later : Store) (quiet : exchange.begun? = none)
      (transactions : later.transactions = store.transactions)
      (next : later.nextTransaction = store.nextTransaction) : Enlists store exchange later
  | begun (connection : Nat) (scope : List String) (mode : AccessMode) (database : String) :
      Enlists store ⟨.beginTransaction connection scope mode, .ok store.nextTransaction⟩
        (store.began database scope mode)
  | ended (exchange : Exchange) (later : Store) (transaction : Nat)
      (quiet : exchange.begun? = none) (ends : exchange.command.Ends transaction)
      (transactions : later.transactions = store.transactions.erase transaction)
      (next : later.nextTransaction = store.nextTransaction) : Enlists store exchange later

theorem step_enlists (store : Store) (command : Command) :
    Enlists store ⟨command, (store.step command).1⟩ (store.step command).2 := by
  cases command with
  | openDatabase name version? upgrade =>
    have ends := open_ends store name version? upgrade
    simp only [Store.step]
    generalize store.openDatabase name version? upgrade = result at ends
    cases ends with
    | injected | zero | outdated | aborted | reopened => exact .same _ _ rfl rfl rfl
    | upgraded calm positive newer success grownStore grows =>
      subst grows
      exact .same _ _ rfl rfl rfl
  | beginTransaction connection scope mode =>
    have ends := begin_ends store connection scope mode
    simp only [Store.step]
    generalize store.beginTransaction connection scope mode = result at ends
    cases ends with
    | closed | empty | missing => exact .same _ _ rfl rfl rfl
    | begun database => exact .begun connection scope mode database
  | request transaction collection asked =>
    have ends := request_ends store transaction collection asked
    simp only [Store.step]
    generalize store.request transaction collection asked = result at ends
    cases ends with
    | finished | uncovered | readOnly | injected | missing | rejected | answered =>
      exact .same _ _ rfl rfl rfl
  | commit transaction =>
    have ends := commit_ends store transaction
    simp only [Store.step]
    generalize store.commit transaction = result at ends
    cases ends with
    | finished => exact .same _ _ rfl rfl rfl
    | injected | committed => exact .ended _ _ transaction rfl (.inl rfl) rfl rfl
  | abort transaction => exact .ended _ _ transaction rfl (.inr rfl) rfl rfl
  | close | inject | snapshot => exact .same _ _ rfl rfl rfl

theorem transactions_numbered :
    Numbering Store.nextTransaction Exchange.begun? Command.isBeginning where
  start := rfl
  step := by
    intro store command
    have enlists := store.step_enlists command
    generalize told : (⟨command, (store.step command).1⟩ : Exchange) = exchange at enlists ⊢
    generalize (store.step command).2 = later at enlists ⊢
    cases enlists with
    | same _ _ quiet _ next => exact .inl ⟨quiet, next⟩
    | ended _ _ _ quiet _ _ next => exact .inl ⟨quiet, next⟩
    | begun connection scope mode database =>
      cases congrArg Exchange.command told
      exact .inr ⟨rfl, rfl, rfl⟩

/-- Nothing but ending it touches a transaction that was begun. -/
theorem step_transaction_eq (store : Store) {command : Command} {transaction : Nat}
    (spared : ¬command.Ends transaction) (issued : transaction < store.nextTransaction) :
    (store.step command).2.transactions.get? transaction =
      store.transactions.get? transaction := by
  have enlists := store.step_enlists command
  generalize told : (⟨command, (store.step command).1⟩ : Exchange) = exchange at enlists
  generalize (store.step command).2 = later at enlists
  cases enlists with
  | same _ _ _ transactions => rw [transactions]
  | begun connection scope mode database =>
    exact SortedMap.get?_insert_of_ne _ (Nat.ne_of_lt issued) _
  | ended _ _ other _ ends transactions =>
    have differ : transaction ≠ other := by
      rintro rfl
      rw [← told] at ends
      exact spared ends
    rw [transactions, SortedMap.get?_erase_of_ne _ differ]

/-- Nothing runs under a number that has not been given out. -/
def Fresh (store : Store) : Prop :=
  ∀ transaction, store.nextTransaction ≤ transaction →
    store.transactions.get? transaction = none

theorem fresh_empty : empty.Fresh := fun _ _ => rfl

theorem Fresh.onward {store later : Store} (fresh : store.Fresh)
    (same : later.transactions = store.transactions)
    (next : store.nextTransaction ≤ later.nextTransaction) : later.Fresh := by
  intro transaction beyond
  rw [same]
  exact fresh transaction (Nat.le_trans next beyond)

/-- So it stays, unless something begins under the greatest number. -/
theorem Fresh.step {store : Store} (fresh : store.Fresh) {command : Command}
    (left : command.isBeginning = true → store.nextTransaction < lastIdentifier) :
    (store.step command).2.Fresh := by
  have enlists := store.step_enlists command
  generalize told : (⟨command, (store.step command).1⟩ : Exchange) = exchange at enlists
  generalize (store.step command).2 = later at enlists ⊢
  intro transaction beyond
  cases enlists with
  | same _ _ _ transactions next =>
    rw [next] at beyond
    rw [transactions]
    exact fresh transaction beyond
  | begun connection scope mode database =>
    cases congrArg Exchange.command told
    have follows : following store.nextTransaction ≤ transaction := beyond
    rw [following_eq (left rfl)] at follows
    refine (SortedMap.get?_insert_of_ne _ (by omega) _).trans ?_
    exact fresh transaction (by omega)
  | ended _ _ other _ _ transactions next =>
    rw [next] at beyond
    rw [transactions]
    by_cases same : transaction = other
    · rw [same]
      exact SortedMap.get?_erase_self _ _
    · rw [SortedMap.get?_erase_of_ne _ same]
      exact fresh transaction beyond

section Numbered

variable {counter : Store → Nat} {given? : Exchange → Option Nat} {asks : Command → Bool}
  (numbering : Numbering counter given? asks)

include numbering

theorem Numbering.onward (store : Store) (command : Command) :
    counter store ≤ counter (store.step command).2 := by
  rcases numbering.step store command with ⟨-, same⟩ | ⟨-, -, next⟩
  · exact Nat.le_of_eq same.symm
  · rw [next]
    exact le_following _

theorem Numbering.counts (store : Store) (history : List Command) :
    Counts (counter store) ((store.exchanges history).filterMap given?)
      (counter (store.run history)) := by
  induction history generalizing store with
  | nil => exact .still _
  | cons command rest ih =>
    have further := ih (store.step command).2
    simp only [exchanges, run]
    rcases numbering.step store command with ⟨quiet, next⟩ | ⟨-, given, next⟩
    · rw [List.filterMap_cons_none quiet, ← next]
      exact further
    · rw [List.filterMap_cons_some given]
      rw [next] at further
      exact .given further

theorem Numbering.length_le (store : Store) (history : List Command) :
    ((store.exchanges history).filterMap given?).length ≤ history.countP asks := by
  induction history generalizing store with
  | nil => exact Nat.le_refl _
  | cons command rest ih =>
    have bound := ih (store.step command).2
    simp only [exchanges, List.countP_cons]
    rcases numbering.step store command with ⟨quiet, -⟩ | ⟨asked, given, -⟩
    · rw [List.filterMap_cons_none quiet]
      omega
    · rw [List.filterMap_cons_some given, if_pos asked, List.length_cons]
      omega

/-- Of a short enough history it can be said at once which numbers it gives out. -/
theorem Numbering.given {history : List Command}
    (enough : history.countP asks ≤ lastIdentifier) :
    (empty.exchanges history).filterMap given? = List.range (counter (empty.run history)) := by
  have counts := numbering.counts empty history
  rw [numbering.start] at counts
  have length := numbering.length_le empty history
  obtain ⟨consecutive, last⟩ := counts.consecutive (by omega)
  rw [last, Nat.zero_add, List.range_eq_range']
  exact consecutive

end Numbered

end Store

end RecordSql
