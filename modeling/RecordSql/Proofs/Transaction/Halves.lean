import RecordSql.Proofs.Statement.Plan
import RecordSql.Proofs.Store.Independence
import RecordSql.Proofs.Transaction.Ledger

/-!
Statements carried out one at a time. A statement has two halves. The first one
makes its first request, and but for an update that is all of it; the second one
writes back the record that an update has read and merged. To execute a
statement is to carry out one half right after the other, and statements that
are executed in an order are the measure of what a schedule makes of them.
-/

namespace RecordSql

/-- Where a statement stands after its first half. -/
inductive Halfway where
  | settled (outcome : Outcome)
  | writes (collection : String) (merged : Record)

def Outcome.ofReply {Answer : Type} (kind : StatementKind) (told : Answer → ResultSet)
    (reply : Except StoreError Answer) : Outcome :=
  (reply.map told).mapError (.storage kind)

namespace Store

def firstHalf (store : Store) (transaction : Nat) : Plan → Halfway × Store
  | .insert collection values =>
      let (reply, store) := store.request transaction collection (.add values)
      (.settled (.ofReply .insert .inserted reply), store)
  | .select collection =>
      let (reply, store) := store.request transaction collection .getAll
      (.settled (.ofReply .select .ofRows reply), store)
  | .delete collection key =>
      let (reply, store) := store.request transaction collection (.delete key)
      (.settled (.ofReply .delete (fun _ => .affected 1) reply), store)
  | .update collection key updates =>
      let (reply, store) := store.request transaction collection (.get key)
      match reply with
      | .ok found? => (.writes collection (Call.merged key updates found?), store)
      | .error cause => (.settled (.error (.storage .update cause)), store)

def secondHalf (store : Store) (transaction : Nat) : Halfway → Outcome × Store
  | .settled outcome => (outcome, store)
  | .writes collection merged =>
      let (reply, store) := store.request transaction collection (.put merged)
      (.ofReply .update (fun _ => .affected 1) reply, store)

/-- A statement from its planning to its end. -/
def execute (store : Store) (mode : CollectionMode) (transaction : Nat) (issued : Issued) :
    Outcome × Store :=
  match issued.statement.planned mode with
  | .error cause => (.error cause, store)
  | .ok plan =>
      let (half, store) := store.firstHalf transaction plan
      store.secondHalf transaction half

/-- Statements one at a time, in order. -/
def executeAll (store : Store) (mode : CollectionMode) (transaction : Nat) :
    List Issued → List Settlement × Store
  | [] => ([], store)
  | issued :: rest =>
      let (outcome, store) := store.execute mode transaction issued
      let (settled, store) := store.executeAll mode transaction rest
      ((issued, outcome) :: settled, store)

def firstHalves (store : Store) (transaction : Nat) :
    List Pending → List (Pending × Halfway) × Store
  | [] => ([], store)
  | pending :: rest =>
      let (half, store) := store.firstHalf transaction pending.plan
      let (halves, store) := store.firstHalves transaction rest
      ((pending, half) :: halves, store)

def secondHalves (store : Store) (transaction : Nat) :
    List (Pending × Halfway) → List Settlement × Store
  | [] => ([], store)
  | (pending, half) :: rest =>
      let (outcome, store) := store.secondHalf transaction half
      let (settled, store) := store.secondHalves transaction rest
      ((pending.issued, outcome) :: settled, store)

/-- Each update writes back what it would write had it read the record only just
before. -/
def AllCurrent (store : Store) (transaction : Nat) : List (Pending × Halfway) → Prop
  | [] => True
  | (pending, half) :: rest =>
      (∀ collection merged, half = .writes collection merged →
        (store.firstHalf transaction pending.plan).1 = half) ∧
      (store.secondHalf transaction half).2.AllCurrent transaction rest

end Store

namespace Halfway

/-- The statements that their first half has settled. -/
def told : List (Pending × Halfway) → List Settlement
  | [] => []
  | (pending, .settled outcome) :: rest => (pending.issued, outcome) :: told rest
  | (_, .writes _ _) :: rest => told rest

/-- The statements that have a record to write back. -/
def writers : List (Pending × Halfway) → List Issued
  | [] => []
  | (_, .settled _) :: rest => writers rest
  | (pending, .writes _ _) :: rest => pending.issued :: writers rest

theorem told_writers_perm (halves : List (Pending × Halfway)) :
    (Settlement.issued (told halves) ++ writers halves).Perm
      (halves.map fun half => half.1.issued) := by
  induction halves with
  | nil => exact .nil
  | cons first rest ih =>
    obtain ⟨pending, outcome | ⟨collection, merged⟩⟩ := first
    · exact ih.cons pending.issued
    · exact List.perm_middle.trans (ih.cons pending.issued)

end Halfway

def Halfway.progress : Halfway → Progress
  | .settled outcome => .done outcome
  | .writes collection merged => .next (.write collection merged)

theorem Halfway.progress_injective {left right : Halfway}
    (same : left.progress = right.progress) : left = right := by
  cases left <;> cases right <;> simp_all [progress]

namespace Store

variable (store : Store) (transaction : Nat)

theorem firstHalf_eq (plan : Plan) :
    ((store.firstHalf transaction plan).1.progress, (store.firstHalf transaction plan).2) =
      (plan.call.resume (store.request transaction plan.call.collection plan.call.request).1,
        (store.request transaction plan.call.collection plan.call.request).2) := by
  cases plan with
  | insert collection values =>
    simp only [firstHalf, Plan.call, Call.collection, Call.request]
    generalize store.request transaction collection (.add values) = result
    obtain ⟨cause | key, next⟩ := result <;> rfl
  | select collection =>
    simp only [firstHalf, Plan.call, Call.collection, Call.request]
    generalize store.request transaction collection .getAll = result
    obtain ⟨cause | rows, next⟩ := result <;> rfl
  | update collection key updates =>
    simp only [firstHalf, Plan.call, Call.collection, Call.request]
    generalize store.request transaction collection (.get key) = result
    obtain ⟨cause | found?, next⟩ := result <;> rfl
  | delete collection key =>
    simp only [firstHalf, Plan.call, Call.collection, Call.request]
    generalize store.request transaction collection (.delete key) = result
    obtain ⟨cause | done, next⟩ := result <;> rfl

theorem secondHalf_eq (collection : String) (merged : Record) :
    (Progress.done (store.secondHalf transaction (.writes collection merged)).1,
        (store.secondHalf transaction (.writes collection merged)).2) =
      ((Call.write collection merged).resume
        (store.request transaction collection (.put merged)).1,
        (store.request transaction collection (.put merged)).2) := by
  simp only [secondHalf]
  generalize store.request transaction collection (.put merged) = result
  obtain ⟨cause | key, next⟩ := result <;> rfl

theorem execute_planned {mode : CollectionMode} {issued : Issued} {plan : Plan}
    (planned : issued.statement.planned mode = .ok plan) :
    store.execute mode transaction issued =
      (store.firstHalf transaction plan).2.secondHalf transaction
        (store.firstHalf transaction plan).1 := by
  simp only [execute, planned]

theorem execute_refused {mode : CollectionMode} {issued : Issued} {cause : Failure}
    (refused : issued.statement.planned mode = .error cause) :
    store.execute mode transaction issued = (.error cause, store) := by
  simp only [execute, refused]

theorem executeAll_cons (mode : CollectionMode) (issued : Issued) (rest : List Issued) :
    store.executeAll mode transaction (issued :: rest) =
      ((issued, (store.execute mode transaction issued).1) ::
        ((store.execute mode transaction issued).2.executeAll mode transaction rest).1,
        ((store.execute mode transaction issued).2.executeAll mode transaction rest).2) := rfl

theorem executeAll_append (mode : CollectionMode) (first later : List Issued) :
    store.executeAll mode transaction (first ++ later) =
      ((store.executeAll mode transaction first).1 ++
        ((store.executeAll mode transaction first).2.executeAll mode transaction later).1,
        ((store.executeAll mode transaction first).2.executeAll mode transaction later).2) := by
  induction first generalizing store with
  | nil => rfl
  | cons issued rest ih =>
    rw [List.cons_append, executeAll_cons, executeAll_cons, ih]
    rfl

theorem firstHalves_cons (pending : Pending) (rest : List Pending) :
    store.firstHalves transaction (pending :: rest) =
      ((pending, (store.firstHalf transaction pending.plan).1) ::
        ((store.firstHalf transaction pending.plan).2.firstHalves transaction rest).1,
        ((store.firstHalf transaction pending.plan).2.firstHalves transaction rest).2) := rfl

theorem firstHalves_pending (waiting : List Pending) :
    (store.firstHalves transaction waiting).1.map Prod.fst = waiting := by
  induction waiting generalizing store with
  | nil => rfl
  | cons pending rest ih => exact congrArg (pending :: ·) (ih _)

section Calm

variable {store} {mode : CollectionMode}

theorem firstHalf_faults (calm : store.faults = []) (plan : Plan) :
    (store.firstHalf transaction plan).2.faults = [] := by
  have same := congrArg Prod.snd (store.firstHalf_eq transaction plan)
  rw [show (store.firstHalf transaction plan).2 = _ from same]
  exact request_faults store _ _ _ calm

theorem firstHalves_faults (calm : store.faults = []) (waiting : List Pending) :
    (store.firstHalves transaction waiting).2.faults = [] := by
  induction waiting generalizing store with
  | nil => exact calm
  | cons pending rest ih => exact ih (firstHalf_faults transaction calm pending.plan)

theorem secondHalf_faults (calm : store.faults = []) (half : Halfway) :
    (store.secondHalf transaction half).2.faults = [] := by
  cases half with
  | settled outcome => exact calm
  | writes collection merged => exact request_faults store _ _ _ calm

theorem firstHalf_of_writes {plan : Plan} {collection : String} {merged : Record}
    (calm : store.faults = [])
    (writes : (store.firstHalf transaction plan).1 = .writes collection merged) :
    (store.firstHalf transaction plan).2 = store := by
  cases plan with
  | insert | select | delete => cases writes
  | update name key updates =>
    have kept := request_get store transaction name key calm
    simp only [firstHalf] at writes ⊢
    generalize store.request transaction name (.get key) = result at kept writes
    obtain ⟨cause | found?, next⟩ := result
    · cases writes
    · exact kept

/-- The statements that settle with their first half, executed in their order,
do what all first halves do: the others have only read. -/
theorem executeAll_told {waiting : List Pending}
    (planned : ∀ pending ∈ waiting, pending.issued.statement.planned mode = .ok pending.plan)
    (calm : store.faults = []) :
    store.executeAll mode transaction
        (Settlement.issued (Halfway.told (store.firstHalves transaction waiting).1)) =
      (Halfway.told (store.firstHalves transaction waiting).1,
        (store.firstHalves transaction waiting).2) := by
  induction waiting generalizing store with
  | nil => rfl
  | cons pending rest ih =>
    have others := ih (fun each member => planned each (List.mem_cons_of_mem _ member))
      (firstHalf_faults transaction calm pending.plan)
    have head := store.execute_planned transaction (planned pending (List.mem_cons_self ..))
    have kept : ∀ collection merged,
        (store.firstHalf transaction pending.plan).1 = .writes collection merged →
        (store.firstHalf transaction pending.plan).2 = store :=
      fun collection merged => firstHalf_of_writes transaction calm
    simp only [firstHalves]
    generalize store.firstHalf transaction pending.plan = first at others head kept
    obtain ⟨outcome | ⟨collection, merged⟩, next⟩ := first
    · rw [Halfway.told, Settlement.issued, List.map_cons, executeAll_cons, head]
      simp only [secondHalf]
      rw [← Settlement.issued, others]
    · -- What writes later has only read, so the others meet the same store without it.
      rw [Halfway.told]
      have same : next = store := kept collection merged rfl
      rw [same] at others ⊢
      exact others

/-- The statements that have a record to write back, executed in their order,
write the same records as long as these are current. -/
theorem executeAll_writers {halves : List (Pending × Halfway)}
    (planned : ∀ half ∈ halves, half.1.issued.statement.planned mode = .ok half.1.plan)
    (calm : store.faults = []) (current : store.AllCurrent transaction halves) :
    ∃ written, store.executeAll mode transaction (Halfway.writers halves) =
        (written, (store.secondHalves transaction halves).2) ∧
      (Halfway.told halves ++ written).Perm (store.secondHalves transaction halves).1 := by
  induction halves generalizing store with
  | nil => exact ⟨[], rfl, .nil⟩
  | cons first rest ih =>
    obtain ⟨pending, half⟩ := first
    obtain ⟨now, later⟩ := current
    have known := planned _ (List.mem_cons_self ..)
    obtain ⟨written, executed, same⟩ := ih
      (fun each member => planned each (List.mem_cons_of_mem _ member))
      (secondHalf_faults transaction calm half) later
    cases half with
    | settled outcome => exact ⟨written, executed, same.cons (pending.issued, outcome)⟩
    | writes collection merged =>
      have again := now collection merged rfl
      have head := store.execute_planned transaction known
      rw [again, firstHalf_of_writes transaction calm again] at head
      refine ⟨(pending.issued, (store.secondHalf transaction (.writes collection merged)).1) ::
        written, ?_, List.perm_middle.trans (same.cons _)⟩
      rw [Halfway.writers, executeAll_cons, head, executed]
      rfl

/-- What a statement has to write back it writes to its own collection. -/
theorem collection_of_writes {plan : Plan} {collection : String} {merged : Record}
    (writes : (store.firstHalf transaction plan).1 = .writes collection merged) :
    collection = plan.collection := by
  cases plan with
  | insert | select | delete => cases writes
  | update name key updates =>
    simp only [firstHalf] at writes
    generalize store.request transaction name (.get key) = result at writes
    obtain ⟨cause | found?, next⟩ := result
    · cases writes
    · exact (Halfway.writes.inj writes).1.symm

section Apart

variable {collection : String} {plan : Plan}

theorem request_elsewhere (calm : store.faults = []) (differ : plan.collection ≠ collection)
    (asked second : Request) :
    ((store.request transaction collection asked).2.request transaction plan.collection second).1 =
      (store.request transaction plan.collection second).1 := by
  cases running : store.transactions.get? transaction with
  | some active => exact (requests_exchange calm running running (.collections differ)).1
  | none =>
    have refused : store.request transaction collection asked =
        (.error .transactionFinished, store) := by
      simp only [request, running]
    rw [refused]

/-- What is asked of one collection is not seen from another one. -/
theorem firstHalf_elsewhere (calm : store.faults = []) (differ : plan.collection ≠ collection)
    (asked : Request) :
    ((store.request transaction collection asked).2.firstHalf transaction plan).1 =
      (store.firstHalf transaction plan).1 := by
  apply Halfway.progress_injective
  have later := congrArg Prod.fst
    ((store.request transaction collection asked).2.firstHalf_eq transaction plan)
  have now := congrArg Prod.fst (store.firstHalf_eq transaction plan)
  simp only [plan.call_collection] at later now
  rw [later, now, request_elsewhere transaction calm differ]

theorem firstHalves_elsewhere (calm : store.faults = []) {waiting : List Pending}
    (apart : ∀ pending ∈ waiting, plan.collection ≠ pending.plan.collection) :
    ((store.firstHalves transaction waiting).2.firstHalf transaction plan).1 =
      (store.firstHalf transaction plan).1 := by
  induction waiting generalizing store with
  | nil => rfl
  | cons pending rest ih =>
    have others := ih (firstHalf_faults transaction calm pending.plan)
      fun each member => apart each (List.mem_cons_of_mem _ member)
    have left := congrArg Prod.snd (store.firstHalf_eq transaction pending.plan)
    rw [pending.plan.call_collection] at left
    refine others.trans ?_
    rw [left]
    exact firstHalf_elsewhere transaction calm (apart pending (List.mem_cons_self ..)) _

/-- Once all have made their first request, each would still write back what it has read. -/
theorem firstHalves_current (calm : store.faults = []) {waiting : List Pending}
    (apart : (waiting.map fun each => each.plan.collection).Nodup) :
    ∀ half ∈ (store.firstHalves transaction waiting).1, ∀ collection merged,
      half.2 = .writes collection merged →
        ((store.firstHalves transaction waiting).2.firstHalf transaction half.1.plan).1 =
          half.2 := by
  induction waiting generalizing store with
  | nil => rintro half ⟨⟩
  | cons pending rest ih =>
    obtain ⟨own, others⟩ := List.nodup_cons.mp apart
    rw [firstHalves_cons]
    intro half member collection merged writes
    rcases List.mem_cons.mp member with rfl | later
    · have elsewhere : ∀ each ∈ rest, pending.plan.collection ≠ each.plan.collection :=
        fun each within same => own (List.mem_map.mpr ⟨each, within, same.symm⟩)
      have still := firstHalves_elsewhere transaction
        (firstHalf_faults transaction calm pending.plan) elsewhere
      refine still.trans ?_
      rw [firstHalf_of_writes transaction calm writes]
    · exact ih (firstHalf_faults transaction calm pending.plan) others half later collection
        merged writes

theorem allCurrent_of_current (calm : store.faults = []) {halves : List (Pending × Halfway)}
    (apart : (halves.map fun half => half.1.plan.collection).Nodup)
    (current : ∀ half ∈ halves, ∀ collection merged, half.2 = .writes collection merged →
      (store.firstHalf transaction half.1.plan).1 = half.2) :
    store.AllCurrent transaction halves := by
  induction halves generalizing store with
  | nil => trivial
  | cons first rest ih =>
    obtain ⟨pending, half⟩ := first
    obtain ⟨own, others⟩ := List.nodup_cons.mp apart
    have now := current _ (List.mem_cons_self ..)
    refine ⟨now, ih (secondHalf_faults transaction calm half) others ?_⟩
    intro each member collection merged writes
    have same := current each (List.mem_cons_of_mem _ member) collection merged writes
    cases half with
    | settled outcome => exact same
    | writes place record =>
      -- The record that is written back goes to a collection that the others do not read.
      have differ : each.1.plan.collection ≠ place := by
        intro meets
        rw [collection_of_writes transaction (now place record rfl)] at meets
        exact own (List.mem_map.mpr ⟨each, member, meets⟩)
      exact (firstHalf_elsewhere transaction calm differ (.put record)).trans same

/-- Statements that work on different collections do not get in each other's way. -/
theorem allCurrent_of_apart (calm : store.faults = []) {waiting : List Pending}
    (apart : (waiting.map fun each => each.plan.collection).Nodup) :
    (store.firstHalves transaction waiting).2.AllCurrent transaction
      (store.firstHalves transaction waiting).1 := by
  have halves : ((store.firstHalves transaction waiting).1.map fun half =>
      half.1.plan.collection).Nodup := by
    rw [← store.firstHalves_pending transaction waiting, List.map_map] at apart
    exact apart
  exact allCurrent_of_current transaction (firstHalves_faults transaction calm waiting) halves
    (firstHalves_current transaction calm apart)

end Apart

end Calm

end Store

end RecordSql
