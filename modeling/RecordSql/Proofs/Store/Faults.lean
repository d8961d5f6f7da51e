import RecordSql.Proofs.Store.Failures

/-!
Pending faults. A command meets a fault of its own operation after all its other checks, and
of two faults of one operation it takes one. So over a whole history each injected fault is
either still pending or was told by one reply.
-/

namespace RecordSql

theorem Operation.inspect_injective {left right : Operation}
    (same : left.inspect = right.inspect) : left = right := by
  revert same
  rcases left with _ | kind | _ <;> rcases right with _ | other | _
  case request.request => cases kind <;> cases other <;> decide
  case openDatabase.request | commit.request => cases other <;> decide
  case request.openDatabase | request.commit => cases kind <;> decide
  all_goals decide

namespace StoreError

/-- An error that the store states itself and without a fault. -/
def IsOwn : StoreError → Prop
  | .injected _ | .stated _ _ => False
  | _ => True

theorem isOwn_of_refusal {held : Collection} {name : String} {asked : Request}
    {cause : StoreError} (refusal : held.answer name asked = .error cause) : cause.IsOwn := by
  rcases Collection.refusal_cases refusal with ⟨key, rfl⟩ | ⟨value, rfl⟩
  · trivial
  · trivial

/-- No message of the store's own begins like that of a fault. -/
theorem IsOwn.message_ne {cause : StoreError} (own : cause.IsOwn) (operation : Operation) :
    cause.message ≠ "injected fault: " ++ operation.inspect := by
  intro same
  have first : cause.message.toList.head? = some 'i' := by simp [same]
  unfold message at first
  cases cause with
  | injected | stated => exact own
  -- All other messages begin with another letter.
  | versionNotPositive | versionOutdated | upgradeAborted | collectionExists | connectionClosed
  | emptyScope | collectionMissing | transactionFinished | readOnlyTransaction | keyTaken
  | keyNotInteger | alreadyFinished => simp at first

theorem IsOwn.ne_injected {cause : StoreError} (own : cause.IsOwn) (operation : Operation) :
    cause ≠ .injected operation := by
  rintro rfl
  exact own

theorem message_injected_iff (operation other : Operation) :
    (injected other).message = "injected fault: " ++ operation.inspect ↔ other = operation := by
  have worded : (injected other).message = "injected fault: " ++ other.inspect := rfl
  rw [worded]
  constructor
  · intro same
    exact Operation.inspect_injective (by simpa using same)
  · intro same
    rw [same]

end StoreError

namespace Command

/-- The operation that a fault has to be of so that the command can meet it. -/
def operation? : Command → Option Operation
  | .openDatabase _ _ _ => some .openDatabase
  | .request _ _ asked => some (.request asked.kind)
  | .commit _ => some .commit
  | .close _ | .beginTransaction _ _ _ | .abort _ | .inject _ | .snapshot _ => none

/-- Whether a command passes all checks that come before the faults. -/
def Attempts (store : Store) : Command → Prop
  | .openDatabase _ _ _ => True
  | .request transaction collection asked =>
      ∃ active, store.Admitted transaction collection asked active
  | .commit transaction => ∃ active, store.transactions.get? transaction = some active
  | .close _ | .beginTransaction _ _ _ | .abort _ | .inject _ | .snapshot _ => False

def injects (operation : Operation) : Command → Bool
  | .inject other => decide (other = operation)
  | _ => false

theorem quiet_of_operation? {command : Command} {own : Operation}
    (meets : command.operation? = some own) (operation : Operation) :
    command ≠ .inject operation := by
  rintro rfl
  cases meets

theorem injects_of_quiet {command : Command} (quiet : ∀ operation, command ≠ .inject operation)
    (operation : Operation) : command.injects operation = false := by
  cases command with
  | inject other => exact absurd rfl (quiet other)
  | openDatabase | close | beginTransaction | request | commit | abort | snapshot => rfl

end Command

/-- Whether a reply fails with the message of a fault. -/
def Exchange.tellsFault (operation : Operation) (exchange : Exchange) : Bool :=
  (exchange.command.error? exchange.reply).any fun cause =>
    cause.message == "injected fault: " ++ operation.inspect

namespace Store

/-- A command with the reply that it gets. -/
def exchange (store : Store) (command : Command) : Exchange := ⟨command, (store.step command).1⟩

/-- What becomes of the pending faults, by the error that a command is answered with. -/
inductive FaultEnds (store : Store) (command : Command) :
    Option StoreError → List Operation → Prop where
  | fired (operation : Operation) (own : command.operation? = some operation)
      (attempts : command.Attempts store) (pending : operation ∈ store.faults) :
      FaultEnds store command (some (.injected operation)) (store.faults.erase operation)
  | passed (error? : Option StoreError) (plain : ∀ cause, error? = some cause → cause.IsOwn)
      (quiet : ∀ operation, command ≠ .inject operation)
      (missed : ∀ operation, command.operation? = some operation → command.Attempts store →
        operation ∉ store.faults) :
      FaultEnds store command error? store.faults
  | injected (operation : Operation) (here : command = .inject operation) :
      FaultEnds store command none (store.faults ++ [operation])

/-- Without a pending fault of its operation a command ends as its other checks say. -/
theorem FaultEnds.of_calm {store : Store} {command : Command} {own : Operation}
    (meets : command.operation? = some own) (calm : own ∉ store.faults)
    {error? : Option StoreError} (plain : ∀ cause, error? = some cause → cause.IsOwn) :
    FaultEnds store command error? store.faults := by
  refine .passed error? plain (Command.quiet_of_operation? meets) ?_
  rintro operation also -
  cases meets.symm.trans also
  exact calm

section Endings

variable (store : Store)

theorem open_faults (name : String) (version? : Option UInt32)
    (upgrade : UInt32 → UInt32 → Upgrade) :
    FaultEnds store (.openDatabase name version? upgrade)
      (Command.errorIn (store.openDatabase name version? upgrade).1.result)
      (store.openDatabase name version? upgrade).2.faults := by
  have ends := open_ends store name version? upgrade
  generalize store.openDatabase name version? upgrade = result at ends
  cases ends with
  | injected pending => exact .fired .openDatabase rfl trivial pending
  | zero calm | outdated calm | aborted calm =>
    refine .of_calm rfl calm ?_
    rintro cause ⟨⟩
    trivial
  | upgraded calm positive newer success grownStore grows =>
    subst grows
    exact .of_calm rfl calm (by rintro cause ⟨⟩)
  | reopened calm => exact .of_calm rfl calm (by rintro cause ⟨⟩)

theorem request_meets (transaction : Nat) (collection : String) (asked : Request) :
    FaultEnds store (.request transaction collection asked)
      (Command.errorIn (store.request transaction collection asked).1)
      (store.request transaction collection asked).2.faults := by
  have ends := request_ends store transaction collection asked
  generalize store.request transaction collection asked = result at ends
  -- Who is turned away before the faults has not been admitted.
  have refused : (¬∃ active, store.Admitted transaction collection asked active) →
      ∀ cause : StoreError, cause.IsOwn →
      FaultEnds store (.request transaction collection asked) (some cause) store.faults := by
    intro outside cause own
    refine .passed _ (by rintro other ⟨⟩; exact own) (by rintro operation ⟨⟩) ?_
    rintro operation ⟨⟩ admitted
    exact absurd admitted outside
  cases ends with
  | finished absent =>
    refine refused ?_ _ trivial
    rintro ⟨active, admitted⟩
    cases absent.symm.trans admitted.running
  | uncovered active running outside =>
    refine refused ?_ _ trivial
    rintro ⟨other, admitted⟩
    cases running.symm.trans admitted.running
    exact outside admitted.covered
  | readOnly active running covered writes mode =>
    refine refused ?_ _ trivial
    rintro ⟨other, admitted⟩
    cases running.symm.trans admitted.running
    exact admitted.allowed ⟨writes, mode⟩
  | injected active admitted pending =>
    exact .fired (.request asked.kind) rfl ⟨active, admitted⟩ pending
  | missing active admitted calm absent =>
    refine .of_calm rfl calm ?_
    rintro cause ⟨⟩
    trivial
  | rejected active admitted calm held present cause refusal =>
    refine .of_calm rfl calm ?_
    rintro told ⟨⟩
    exact StoreError.isOwn_of_refusal refusal
  | answered active admitted calm held present answer changed success =>
    exact .of_calm rfl calm (by rintro cause ⟨⟩)

theorem commit_faults (transaction : Nat) :
    FaultEnds store (.commit transaction) (Command.errorIn (store.commit transaction).1)
      (store.commit transaction).2.faults := by
  have ends := commit_ends store transaction
  generalize store.commit transaction = result at ends
  cases ends with
  | finished absent =>
    refine .passed _ ?_ (by rintro operation ⟨⟩) ?_
    · rintro cause ⟨⟩
      trivial
    · rintro operation - ⟨active, running⟩
      cases absent.symm.trans running
  | injected active running pending => exact .fired .commit rfl ⟨active, running⟩ pending
  | committed active running calm => exact .of_calm rfl calm (by rintro cause ⟨⟩)

theorem begin_faults (connection : Nat) (scope : List String) (mode : AccessMode) :
    FaultEnds store (.beginTransaction connection scope mode)
      (Command.errorIn (store.beginTransaction connection scope mode).1)
      (store.beginTransaction connection scope mode).2.faults := by
  have ends := begin_ends store connection scope mode
  generalize store.beginTransaction connection scope mode = result at ends
  cases ends with
  | closed | empty | missing =>
    refine .passed _ ?_ (by rintro operation ⟨⟩) (by rintro operation ⟨⟩)
    rintro cause ⟨⟩
    trivial
  | begun =>
    exact .passed _ (by rintro cause ⟨⟩) (by rintro operation ⟨⟩) (by rintro operation ⟨⟩)

/-- What a single command does to the faults, one ending for each kind of command. -/
theorem step_faults (command : Command) :
    FaultEnds store command (command.error? (store.step command).1)
      (store.step command).2.faults := by
  cases command with
  | openDatabase name version? upgrade => exact open_faults store name version? upgrade
  | request transaction collection asked => exact request_meets store transaction collection asked
  | commit transaction => exact commit_faults store transaction
  | beginTransaction connection scope mode => exact begin_faults store connection scope mode
  | inject operation => exact .injected operation rfl
  | close | abort | snapshot =>
    exact .passed none (by rintro cause ⟨⟩) (by rintro operation ⟨⟩) (by rintro operation ⟨⟩)

end Endings

namespace FaultEnds

variable {store : Store} {command : Command} {error? : Option StoreError} {left : List Operation}

/-- By its message an error is that of a fault just when it is injected. -/
theorem told_iff (ends : FaultEnds store command error? left) (operation : Operation) :
    (error?.any fun cause => cause.message == "injected fault: " ++ operation.inspect) = true ↔
      error? = some (.injected operation) := by
  cases ends with
  | fired other => simp [StoreError.message_injected_iff]
  | injected => simp
  | passed error? plain =>
    cases error? with
    | none => simp
    | some cause =>
      have own := plain cause rfl
      simp [own.message_ne operation, own.ne_injected operation]

theorem fires_iff (ends : FaultEnds store command error? left) (operation : Operation) :
    error? = some (.injected operation) ↔
      command.operation? = some operation ∧ command.Attempts store ∧
        operation ∈ store.faults := by
  cases ends with
  | fired other own attempts pending =>
    constructor
    · rintro ⟨⟩
      exact ⟨own, attempts, pending⟩
    · rintro ⟨also, -⟩
      cases own.symm.trans also
      rfl
  | passed error? plain quiet missed =>
    refine iff_of_false ?_ ?_
    · intro told
      exact plain _ told
    · rintro ⟨own, attempts, pending⟩
      exact missed operation own attempts pending
  | injected other here =>
    subst here
    refine iff_of_false (by rintro ⟨⟩) ?_
    rintro ⟨own, -⟩
    cases own

theorem left_of_told (ends : FaultEnds store command error? left) {operation : Operation}
    (told : error? = some (.injected operation)) :
    operation ∈ store.faults ∧ left = store.faults.erase operation := by
  cases ends with
  | fired other own attempts pending =>
    cases told
    exact ⟨pending, rfl⟩
  | passed error? plain => exact (plain _ told).elim
  | injected => cases told

theorem left_of_silent (ends : FaultEnds store command error? left)
    (silent : ∀ operation, error? ≠ some (.injected operation))
    (quiet : ∀ operation, command ≠ .inject operation) : left = store.faults := by
  cases ends with
  | fired operation => exact absurd rfl (silent operation)
  | passed => rfl
  | injected operation here => exact absurd here (quiet operation)

theorem left_of_inject {operation : Operation}
    (ends : FaultEnds store (.inject operation) error? left) :
    error? = none ∧ left = store.faults ++ [operation] := by
  cases ends with
  | fired other own => cases own
  | passed error? plain quiet => exact absurd rfl (quiet operation)
  | injected other here =>
    cases here
    exact ⟨rfl, rfl⟩

end FaultEnds

/-- How a command deals with the pending faults, whatever else is pending and in any order. -/
structure MeetsFaults (store : Store) (command : Command) : Prop where
  fires : ∀ operation, (store.exchange command).tellsFault operation = true ↔
    command.operation? = some operation ∧ command.Attempts store ∧ operation ∈ store.faults
  one : ∀ operation, (store.exchange command).tellsFault operation = true →
    (store.step command).2.faults = store.faults.erase operation ∧
      (store.step command).2.faults.count operation + 1 = store.faults.count operation
  spares : (∀ operation, (store.exchange command).tellsFault operation = false) →
    (∀ operation, command ≠ .inject operation) → (store.step command).2.faults = store.faults
  injects : ∀ operation, command = .inject operation →
    (∀ other, (store.exchange command).tellsFault other = false) ∧
      (store.step command).2.faults = store.faults ++ [operation]

theorem tellsFault_iff (store : Store) (command : Command) (operation : Operation) :
    (store.exchange command).tellsFault operation = true ↔
      command.error? (store.step command).1 = some (.injected operation) :=
  (store.step_faults command).told_iff operation

theorem tellsFault_eq_false_iff (store : Store) (command : Command) (operation : Operation) :
    (store.exchange command).tellsFault operation = false ↔
      command.error? (store.step command).1 ≠ some (.injected operation) := by
  rw [← Bool.not_eq_true, tellsFault_iff]

theorem count_erase_one {faults : List Operation} {operation : Operation}
    (pending : operation ∈ faults) :
    (faults.erase operation).count operation + 1 = faults.count operation := by
  have positive : 0 < faults.count operation := List.count_pos_iff.mpr pending
  rw [List.count_erase_self]
  omega

theorem step_meetsFaults (store : Store) (command : Command) : store.MeetsFaults command where
  fires operation := by
    rw [tellsFault_iff]
    exact (store.step_faults command).fires_iff operation
  one operation told := by
    rw [tellsFault_iff] at told
    obtain ⟨pending, left⟩ := (store.step_faults command).left_of_told told
    exact ⟨left, by rw [left, count_erase_one pending]⟩
  spares silent quiet :=
    (store.step_faults command).left_of_silent
      (fun operation => (tellsFault_eq_false_iff store command operation).mp (silent operation))
      quiet
  injects := by
    rintro operation rfl
    obtain ⟨nothing, left⟩ := (store.step_faults (.inject operation)).left_of_inject
    refine ⟨fun other => ?_, left⟩
    rw [tellsFault_eq_false_iff, nothing]
    rintro ⟨⟩

/-- One command keeps the account: a fault of an operation is one more after its injection,
and one less after it was told. -/
theorem step_account (store : Store) (command : Command) (operation : Operation) :
    store.faults.count operation + (if command.injects operation then 1 else 0) =
      (if (store.exchange command).tellsFault operation then 1 else 0) +
        (store.step command).2.faults.count operation := by
  have ends := store.step_faults command
  have told := store.tellsFault_iff command operation
  -- The endings speak of the error and the faults that are left, no longer of the step.
  generalize (store.exchange command).tellsFault operation = tells at told
  generalize command.error? (store.step command).1 = error? at ends told
  generalize (store.step command).2.faults = left at ends
  cases ends with
  | fired other own attempts pending =>
    have tells_eq : tells = decide (other = operation) :=
      Bool.eq_iff_iff.mpr (by simpa using told)
    rw [Command.injects_of_quiet (Command.quiet_of_operation? own), tells_eq]
    by_cases same : other = operation
    · subst same
      have one := count_erase_one pending
      simp
      omega
    · simp [same, List.count_erase_of_ne (Ne.symm same)]
  | passed error? plain quiet =>
    have silent : tells = false := by
      rw [← Bool.not_eq_true, told]
      exact fun same => plain _ same
    simp [Command.injects_of_quiet quiet, silent]
  | injected other here =>
    subst here
    simp [told, Command.injects, List.count_singleton]

theorem run_account (store : Store) (commands : List Command) (operation : Operation) :
    store.faults.count operation + commands.countP (Command.injects operation) =
      (store.exchanges commands).countP (Exchange.tellsFault operation) +
        (store.run commands).faults.count operation := by
  induction commands generalizing store with
  | nil => simp [exchanges, run]
  | cons command rest ih =>
    have first := store.step_account command operation
    have others := ih (store.step command).2
    rw [List.countP_cons, exchanges, List.countP_cons, run]
    change _ = _ + (if (store.exchange command).tellsFault operation then 1 else 0) + _
    omega

/-- Over a history no fault is lost and none is told twice, and each next command meets the
pending faults as its operation and its checks say. -/
theorem injected_faults_are_told_or_pending (commands : List Command) :
    (∀ operation, commands.countP (Command.injects operation) =
      (empty.exchanges commands).countP (Exchange.tellsFault operation) +
        (empty.run commands).faults.count operation) ∧
      ∀ command, (empty.run commands).MeetsFaults command := by
  constructor
  · intro operation
    have account := empty.run_account commands operation
    have nothing : empty.faults.count operation = 0 := rfl
    rwa [nothing, Nat.zero_add] at account
  · exact (empty.run commands).step_meetsFaults

end Store

end RecordSql
