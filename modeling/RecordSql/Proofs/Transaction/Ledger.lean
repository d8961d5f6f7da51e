import RecordSql.Transaction.Run

/-!
The ledger of a program: which of its statements have settled and which are
still waiting. Settling a statement takes it off the waiting ones and puts what
its callback issues among them. The order of the waiting ones plays no part, so
one step serves the queue of a running transaction as well as the statements
that settle one inside the other once the queue is closed.
-/

namespace RecordSql

namespace Place

/-- The statement of a program that stands at a place. -/
def statement? (program : List Statement) : Place → Option Statement
  | .top index => program[index]?
  | .afterSuccess parent index =>
      (parent.statement? program).bind fun statement => (statement.onSuccess.getD [])[index]?
  | .afterFailure parent index =>
      (parent.statement? program).bind fun statement => (statement.onFailure.getD [])[index]?

def parent? : Place → Option Place
  | .top _ => none
  | .afterSuccess parent _ => some parent
  | .afterFailure parent _ => some parent

theorem following_injective (place : Place) (outcome : Outcome) (left right : Nat)
    (same : place.following outcome left = place.following outcome right) :
    left = right := by
  cases outcome with
  | ok result => exact (Place.afterSuccess.inj same).2
  | error cause => exact (Place.afterFailure.inj same).2

theorem parent?_following (place : Place) (outcome : Outcome) (index : Nat) :
    (place.following outcome index).parent? = some place := by
  cases outcome <;> rfl

theorem statement?_following (program : List Statement) (place : Place) (outcome : Outcome)
    (index : Nat) :
    (place.following outcome index).statement? program =
      (place.statement? program).bind fun statement =>
        ((statement.callback outcome).getD [])[index]? := by
  cases outcome <;> rfl

end Place

namespace Issued

def places (issued : List Issued) : List Place := issued.map Issued.place

@[simp]
theorem places_append (left right : List Issued) :
    places (left ++ right) = places left ++ places right := List.map_append

theorem mem_number {placed : Nat → Place} {index : Nat} {statements : List Statement}
    {issued : Issued} (member : issued ∈ number placed index statements) :
    ∃ offset, issued.place = placed (index + offset) ∧
      statements[offset]? = some issued.statement := by
  induction statements generalizing index with
  | nil => cases member
  | cons statement rest ih =>
    rcases List.mem_cons.mp member with same | later
    · exact ⟨0, by simp [same], by simp [same]⟩
    · obtain ⟨offset, place, found⟩ := ih later
      refine ⟨offset + 1, ?_, by simpa using found⟩
      rw [place, Nat.add_right_comm, Nat.add_assoc]

theorem places_number_nodup {placed : Nat → Place}
    (injective : ∀ left right, placed left = placed right → left = right) (index : Nat)
    (statements : List Statement) : (places (number placed index statements)).Nodup := by
  induction statements generalizing index with
  | nil => exact .nil
  | cons statement rest ih =>
    refine List.nodup_cons.mpr ⟨?_, ih (index + 1)⟩
    intro again
    obtain ⟨issued, member, same⟩ := List.mem_map.mp again
    obtain ⟨offset, place, -⟩ := mem_number member
    have equal := injective _ _ (place.symm.trans same)
    omega

theorem followers_places_nodup (issued : Issued) (outcome : Outcome) :
    (places (issued.followers outcome)).Nodup :=
  places_number_nodup (issued.place.following_injective outcome) 0 _

theorem parent?_of_mem_followers {issued follower : Issued} {outcome : Outcome}
    (member : follower ∈ issued.followers outcome) :
    follower.place.parent? = some issued.place := by
  obtain ⟨offset, place, -⟩ := mem_number member
  rw [place, Place.parent?_following]

theorem statement?_of_mem_followers {program : List Statement} {issued follower : Issued}
    {outcome : Outcome} (genuine : issued.place.statement? program = some issued.statement)
    (member : follower ∈ issued.followers outcome) :
    follower.place.statement? program = some follower.statement := by
  obtain ⟨offset, place, found⟩ := mem_number member
  rw [place, Place.statement?_following, genuine, Nat.zero_add]
  exact found

end Issued

/-- A statement that has settled and how. -/
abbrev Settlement := Issued × Outcome

namespace Settlement

def issued (settlements : List Settlement) : List Issued := settlements.map Prod.fst

/-- What the callbacks of settled statements have issued. -/
def followers (settlements : List Settlement) : List Issued :=
  settlements.flatMap fun settlement => settlement.1.followers settlement.2

/-- The outcomes that a statement has settled with. -/
def outcomesAt (place : Place) : List Settlement → List Outcome
  | [] => []
  | (issued, outcome) :: rest =>
      if issued.place = place then outcome :: outcomesAt place rest else outcomesAt place rest

@[simp]
theorem issued_append (left right : List Settlement) :
    issued (left ++ right) = issued left ++ issued right := List.map_append

@[simp]
theorem followers_append (left right : List Settlement) :
    followers (left ++ right) = followers left ++ followers right := List.flatMap_append

theorem outcomesAt_of_not_mem {place : Place} {settlements : List Settlement}
    (absent : place ∉ Issued.places (issued settlements)) :
    outcomesAt place settlements = [] := by
  induction settlements with
  | nil => rfl
  | cons settlement rest ih =>
    obtain ⟨other, later⟩ := not_or.mp (mt List.mem_cons.mpr absent)
    rw [outcomesAt, if_neg (Ne.symm other), ih later]

theorem outcomesAt_of_mem {place : Place} {settlements : List Settlement}
    (distinct : (Issued.places (issued settlements)).Nodup)
    (present : place ∈ Issued.places (issued settlements)) :
    ∃ outcome, outcomesAt place settlements = [outcome] := by
  induction settlements with
  | nil => cases present
  | cons settlement rest ih =>
    obtain ⟨fresh, others⟩ := List.nodup_cons.mp distinct
    by_cases same : settlement.1.place = place
    · refine ⟨settlement.2, ?_⟩
      rw [outcomesAt, if_pos same, outcomesAt_of_not_mem (same ▸ fresh)]
    · rcases List.mem_cons.mp present with equal | later
      · exact absurd equal.symm same
      · obtain ⟨outcome, only⟩ := ih others later
        exact ⟨outcome, by rw [outcomesAt, if_neg same, only]⟩

theorem mem_of_outcomesAt {place : Place} {settlements : List Settlement} {outcome : Outcome}
    (only : outcomesAt place settlements = [outcome]) :
    ∃ issued, (issued, outcome) ∈ settlements ∧ issued.place = place := by
  induction settlements with
  | nil => cases only
  | cons settlement rest ih =>
    rw [outcomesAt] at only
    split at only
    · rename_i same
      obtain ⟨told, -⟩ := List.cons.inj only
      exact ⟨settlement.1, told ▸ List.mem_cons_self .., same⟩
    · obtain ⟨issued, member, same⟩ := ih only
      exact ⟨issued, List.mem_cons_of_mem _ member, same⟩

end Settlement

structure Ledger (program : List Statement) (settled : List Settlement)
    (waiting : List Issued) : Prop where
  genuine : ∀ issued ∈ Settlement.issued settled ++ waiting,
    issued.place.statement? program = some issued.statement
  distinct : (Issued.places (Settlement.issued settled ++ waiting)).Nodup
  /-- What issued a statement has settled before. -/
  rooted : ∀ issued ∈ Settlement.issued settled ++ waiting,
    ∀ parent, issued.place.parent? = some parent →
      parent ∈ Issued.places (Settlement.issued settled)

namespace Ledger

variable {program : List Statement} {settled : List Settlement} {waiting : List Issued}

theorem start (program : List Statement) : Ledger program [] (issuedAtSetup program) where
  genuine := by
    intro issued member
    obtain ⟨offset, place, found⟩ := Issued.mem_number member
    rw [place, Nat.zero_add]
    exact found
  distinct := Issued.places_number_nodup (fun _ _ same => Place.top.inj same) 0 program
  rooted := by
    intro issued member parent above
    obtain ⟨offset, place, -⟩ := Issued.mem_number member
    rw [place] at above
    cases above

theorem reorder {others : List Issued} (ledger : Ledger program settled waiting)
    (same : waiting.Perm others) : Ledger program settled others where
  genuine := fun issued member =>
    ledger.genuine issued ((same.append_left _).mem_iff.mpr member)
  distinct := ((same.append_left _).map Issued.place).nodup_iff.mp ledger.distinct
  rooted := fun issued member =>
    ledger.rooted issued ((same.append_left _).mem_iff.mpr member)

theorem settle {issued : Issued} (ledger : Ledger program settled (issued :: waiting))
    (outcome : Outcome) :
    Ledger program (settled ++ [(issued, outcome)]) (issued.followers outcome ++ waiting) := by
  have whole : ((Settlement.issued (settled ++ [(issued, outcome)])) ++
      (issued.followers outcome ++ waiting)).Perm
      ((Settlement.issued settled ++ issued :: waiting) ++ issued.followers outcome) := by
    rw [Settlement.issued_append, List.append_assoc, List.append_assoc]
    have swapped : (issued.followers outcome ++ waiting).Perm
        (waiting ++ issued.followers outcome) := List.perm_append_comm
    exact List.Perm.append_left _ (swapped.cons issued)
  have unsettled : issued.place ∉ Issued.places (Settlement.issued settled) := by
    intro before
    have distinct := ledger.distinct
    rw [Issued.places_append] at distinct
    exact (List.nodup_append.mp distinct).2.2 _ before _ (List.mem_cons_self ..) rfl
  constructor
  · intro each member
    rcases List.mem_append.mp (whole.mem_iff.mp member) with known | follower
    · exact ledger.genuine each known
    · have head : issued ∈ Settlement.issued settled ++ issued :: waiting := by simp
      exact Issued.statement?_of_mem_followers (ledger.genuine issued head) follower
  · apply (whole.map Issued.place).nodup_iff.mpr
    rw [List.map_append]
    refine List.nodup_append.mpr
      ⟨ledger.distinct, Issued.followers_places_nodup issued outcome, ?_⟩
    intro place known other follower same
    obtain ⟨each, member, rfl⟩ := List.mem_map.mp known
    obtain ⟨below, issuedBy, rfl⟩ := List.mem_map.mp follower
    -- A follower stands below the statement that settles now, everything known
    -- before it below one that settled earlier.
    have above := Issued.parent?_of_mem_followers issuedBy
    exact unsettled (ledger.rooted each member _ (same ▸ above))
  · intro each member parent above
    rw [Settlement.issued_append, Issued.places_append]
    rcases List.mem_append.mp (whole.mem_iff.mp member) with known | follower
    · exact List.mem_append_left _ (ledger.rooted each known parent above)
    · rw [Issued.parent?_of_mem_followers follower] at above
      cases above
      exact List.mem_append_right _ (List.mem_singleton_self _)

end Ledger

/-- The statements settle in order with one failure, and what their callbacks
issue settles at once, before anything else happens, for the transaction is
closed. -/
inductive SettleAtOnce : Failure → List Issued → List Event → Prop where
  | none (cause : Failure) : SettleAtOnce cause [] []
  | one {cause : Failure} {issued : Issued} {rest : List Issued} {inner later : List Event}
      (followers : SettleAtOnce .transactionClosed (issued.followers (.error cause)) inner)
      (others : SettleAtOnce cause rest later) :
      SettleAtOnce cause (issued :: rest)
        (.settled issued (.error cause) :: (inner ++ later))

end RecordSql
