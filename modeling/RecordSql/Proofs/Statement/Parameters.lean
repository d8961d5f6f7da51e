import RecordSql.Proofs.Statement.Key
import RecordSql.Proofs.Statement.Payload
import RecordSql.Proofs.Statement.Places
import RecordSql.Proofs.Statement.Plan

/-!
The parts that the parameters of an UPDATE have. The assignments take them from the front, one
each, and the last one is the key. An UPDATE is planned only if the parameters run past the
assignments, so that no parameter has two parts and no assignment is without one.
-/

namespace RecordSql

open Clause Text

/-- The name that an assignment is made to. -/
def leftSide (assignment : List Char) : String :=
  String.ofList (trim (assignment.takeWhile (· != '=')))

/-- Blanks around an assignment do not hide its equals sign. -/
theorem Payload.assignedField_eq (piece : List Char) : assignedField piece = leftSide piece := by
  refine congrArg String.ofList (trim_takeWhile (fun c blank => ?_) piece)
  rw [bne_iff_ne]
  rintro rfl
  exact absurd blank (by decide)

/-- The names that an UPDATE assigns to, one for each piece between commas. -/
def UpdateClause.fields (clause : UpdateClause) : List String :=
  (clause.assignments.splitOn ',').map leftSide

theorem Payload.assignedFields_eq (clause : UpdateClause) :
    assignedFields clause.assignments = clause.fields := by
  rw [assignedFields, pieces_eq_splitOn, UpdateClause.fields]
  exact List.map_congr_left fun piece _ => assignedField_eq piece

/-- Each parameter has at most one part: the last is the key, and an earlier one is the value of
the field whose last assignment stands at its position. Every field has a parameter. -/
structure UpdateClause.Filled (clause : UpdateClause) (params : List Value) (key : Key)
    (updates : Record) : Prop where
  beyond : clause.fields.length < params.length
  keyed : ∃ last, params.getLast? = some last ∧ last ≠ .null ∧
    Key.ofValue .update (some last) = .ok key
  named : ∀ name, name ∈ updates.keys ↔ name ∈ clause.fields
  taken : ∀ name value, updates.get? name = some value ↔
    ∃ index, LastPlace (fun _ _ => True) clause.fields name index ∧
      index + 1 < params.length ∧ params[index]? = some value

/-- Why an UPDATE has no key. -/
inductive UpdateClause.Unkeyed (sql : List Char) (params : List Value) : Prop
  | unwritten (none : ∀ place clause, ¬Front UpdateClause.Written (sql.drop place) clause)
  | few {place : Nat} {clause : UpdateClause} (first : First (UpdateClause.At sql) place clause)
      (within : params.length ≤ clause.fields.length)
  | null (last : params.getLast? = some .null)

namespace UpdateClause

variable {clause : UpdateClause} {params : List Value} {key : Key} {updates : Record}

/-- As the parameters run past the assignments, none is made up. -/
theorem assign_taken (beyond : clause.fields.length < params.length) (name : String)
    (value : Value) : (Payload.assign clause.fields params).get? name = some value ↔
      ∃ index, LastPlace (fun _ _ => True) clause.fields name index ∧
        index + 1 < params.length ∧ params[index]? = some value := by
  rw [Payload.assign_takes]
  refine exists_congr fun index => and_congr_right fun place => ?_
  have before : index + 1 < params.length := Nat.lt_of_le_of_lt place.lt beyond
  have supplied : params[index]? = some params[index] :=
    List.getElem?_eq_getElem (Nat.lt_of_succ_lt before)
  rw [supplied, Option.getD_some, Option.some.injEq, and_iff_right before, eq_comm]

theorem assign_named (names : List String) (params : List Value) (name : String) :
    name ∈ (Payload.assign names params).keys ↔ name ∈ names := by
  rw [SortedMap.mem_keys_iff, SortedMap.contains_iff, ← LastPlace.exists_iff]
  simp only [Payload.assign_takes names params name]
  rw [exists_comm]
  simp only [exists_and_left, exists_eq, and_true]

theorem filled_iff : clause.Filled params key updates ↔
    clause.fields.length < params.length ∧ Key.ofValue .update params.getLast? = .ok key ∧
      updates = Payload.assign clause.fields params := by
  constructor
  · rintro ⟨beyond, ⟨last, final, -, keyed⟩, -, taken⟩
    refine ⟨beyond, final ▸ keyed, SortedMap.ext_get? fun name => Option.ext fun value => ?_⟩
    rw [taken, assign_taken beyond]
  · rintro ⟨beyond, keyed, rfl⟩
    refine ⟨beyond, ?_, assign_named clause.fields params, assign_taken beyond⟩
    cases final : params.getLast? with
    | none =>
      rw [List.getLast?_eq_none_iff.mp final] at beyond
      exact absurd beyond (Nat.not_lt_zero _)
    | some last =>
      rw [final] at keyed
      refine ⟨last, rfl, ?_, keyed⟩
      rintro rfl
      cases keyed

end UpdateClause

theorem updateClause?_eq_none_iff {sql : List Char} : updateClause? sql = none ↔
    ∀ place clause, ¬Front UpdateClause.Written (sql.drop place) clause := by
  rw [updateClause?, first?_eq_none_iff]
  refine forall_congr' fun place => ?_
  constructor
  · intro none clause written
    obtain ⟨read, found⟩ := updateHere?_of_front written
    exact absurd (none.symm.trans found) nofun
  · intro none
    refine Option.eq_none_iff_forall_ne_some.mpr fun clause found => ?_
    exact none clause (updateHere?_eq_some_iff.mp found).1

namespace Payload

variable {sql : List Char} {params : List Value}

theorem ofUpdate_filled_iff {key : Key} {updates : Record} :
    (Key.ofValue .update (ofUpdate sql params).key? = .ok key ∧
        (ofUpdate sql params).updates = updates) ↔
      ∃ place clause, First (UpdateClause.At sql) place clause ∧
        clause.Filled params key updates := by
  rw [exists_comm]
  simp only [exists_and_right, ← updateClause?_eq_some_iff, UpdateClause.filled_iff,
    ← assignedFields_eq, ofUpdate_keyed_iff]
  constructor
  · rintro ⟨⟨clause, found, beyond, keyed⟩, rfl⟩
    exact ⟨clause, found, beyond, keyed, ofUpdate_updates found params⟩
  · rintro ⟨clause, found, beyond, keyed, rfl⟩
    exact ⟨⟨clause, found, beyond, keyed⟩, ofUpdate_updates found params⟩

theorem ofUpdate_unkeyed_iff {kind : StatementKind} :
    Key.ofValue .update (ofUpdate sql params).key? = .error (.missingKey kind) ↔
      kind = .update ∧ UpdateClause.Unkeyed sql params := by
  cases found : updateClause? sql with
  | none =>
    have absent : (ofUpdate sql params).key? = none := by rw [ofUpdate, found]
    have unkeyed : UpdateClause.Unkeyed sql params :=
      .unwritten (updateClause?_eq_none_iff.mp found)
    rw [absent, Key.ofValue_missing_iff]
    simp [unkeyed]
  | some clause =>
    obtain ⟨place, first⟩ := updateClause?_eq_some_iff.mp found
    by_cases within : params.length ≤ clause.fields.length
    · have absent : (ofUpdate sql params).key? = none := by
        simp [ofUpdate, found, assignedFields_eq, within]
      rw [absent, Key.ofValue_missing_iff]
      simp [UpdateClause.Unkeyed.few first within]
    · have beyond := Nat.lt_of_not_le within
      rw [ofUpdate_read params found (assignedFields_eq clause) beyond, Key.ofValue_given?,
        Key.ofValue_missing_iff]
      refine and_congr_right fun _ => ?_
      constructor
      · rintro (none | null)
        · rw [List.getLast?_eq_none_iff.mp none] at within
          exact absurd (Nat.zero_le _) within
        · exact .null null
      -- The clause that was found is the first one, whose assignments are fewer.
      · rintro (none | @⟨other, also, otherFirst, few⟩ | null)
        · have missed := updateClause?_eq_none_iff.mpr none
          exact absurd (missed.symm.trans found) (Option.some_ne_none clause).symm
        · have same := updateClause?_eq_some_iff.mpr ⟨other, otherFirst⟩
          obtain rfl := Option.some.inj (found.symm.trans same)
          exact absurd few within
        · exact .inr null

end Payload

theorem planOf_update_missing_iff {mode : CollectionMode} {sql : List Char}
    {params : List Value} {missing : StatementKind} (kind : StatementKind.classify sql = .update) :
    planOf mode sql params = .error (.missingKey missing) ↔
      (∃ collection, resolveCollection mode sql = .ok collection) ∧
        Key.ofValue .update (Payload.ofUpdate sql params).key? = .error (.missingKey missing) := by
  simp only [planOf, kind]
  cases resolved : resolveCollection mode sql with
  | error cause =>
    simp [bind, Except.bind, resolveCollection_error_eq resolved]
  | ok collection =>
    cases Key.ofValue .update (Payload.ofUpdate sql params).key? <;> simp [bind, Except.bind]

/-- An UPDATE is planned exactly if its parameters fill its first clause, each in one part; its
key is missing exactly if there is no clause, no parameter is left for the key, or the last one
is null. -/
theorem update_gives_each_parameter_one_part (mode : CollectionMode) (sql : String)
    (params : List Value) :
    (∀ collection key updates, plan mode sql params = .ok (.update collection key updates) ↔
      StatementKind.classify sql.toList = .update ∧
        resolveCollection mode sql.toList = .ok collection ∧
        ∃ place clause, First (UpdateClause.At sql.toList) place clause ∧
          clause.Filled params key updates) ∧
    ∀ kind, (StatementKind.classify sql.toList = .update ∧
        plan mode sql params = .error (.missingKey kind)) ↔
      (StatementKind.classify sql.toList = .update ∧
        ∃ collection, resolveCollection mode sql.toList = .ok collection) ∧
        kind = .update ∧ UpdateClause.Unkeyed sql.toList params := by
  constructor
  · intro collection key updates
    rw [plan, planOf_ok_iff, planned_update_iff, ← Payload.ofUpdate_filled_iff]
  · intro kind
    rw [and_assoc]
    refine and_congr_right fun update => ?_
    rw [plan, planOf_update_missing_iff update, Payload.ofUpdate_unkeyed_iff]

/-- A parameter between the assignments and the key has no part. -/
example : plan .perStatement "UPDATE t SET a = ?, a = ? WHERE id = ?"
    [.integer 1, .integer 2, .integer 3, .integer 7] =
      .ok (.update "t" 7 (.ofList [("a", .integer 2)])) := rfl

end RecordSql
