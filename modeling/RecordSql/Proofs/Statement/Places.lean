import RecordSql.Proofs.Statement.Forms

/-!
Where in a statement a clause is found: at the first place at which one is written. A table
clause counts only where its word starts a word of the text.
-/

namespace RecordSql

namespace Clause

/-- Something is found at this place, and nothing is at an earlier one. -/
structure First {Found : Type} (At : Nat → Found → Prop) (place : Nat) (found : Found) : Prop where
  here : At place found
  first : ∀ earlier < place, ∀ other, ¬At earlier other

theorem exists_first_iff {Found : Type} {At : Nat → Found → Prop} {found : Found} :
    (∃ place, First At place found) ↔ At 0 found ∨
      (∀ other, ¬At 0 other) ∧ ∃ place, First (fun place => At (place + 1)) place found := by
  constructor
  · rintro ⟨place, here, first⟩
    cases place with
    | zero => exact .inl here
    | succ place =>
      exact .inr ⟨first 0 (Nat.succ_pos place), place, here, fun earlier before =>
        first (earlier + 1) (Nat.succ_lt_succ before)⟩
  · rintro (here | ⟨none, place, here, first⟩)
    · exact ⟨0, here, fun earlier before => absurd before (Nat.not_lt_zero earlier)⟩
    · refine ⟨place + 1, here, fun earlier before => ?_⟩
      cases earlier with
      | zero => exact none
      | succ earlier => exact first earlier (Nat.lt_of_succ_lt_succ before)

theorem First.place_eq {Found : Type} {At : Nat → Found → Prop} {place other : Nat}
    {found also : Found} (first : First At place found) (otherFirst : First At other also) :
    place = other := by
  rcases Nat.lt_trichotomy place other with before | same | after
  · exact absurd first.here (otherFirst.first place before found)
  · exact same
  · exact absurd otherFirst.here (first.first other after also)

theorem first?_eq_some_iff {Found : Type} {read : List Char → Option Found}
    {Here : List Char → Found → Prop}
    (exact : ∀ text found, read text = some found ↔ Here text found) (sql : List Char)
    (found : Found) :
    first? read sql = some found ↔
      ∃ place, First (fun place => Here (sql.drop place)) place found := by
  induction sql with
  | nil =>
    rw [first?, exact]
    constructor
    · exact fun here => ⟨0, here, fun earlier before => absurd before (Nat.not_lt_zero earlier)⟩
    · rintro ⟨place, here, -⟩
      rwa [List.drop_nil] at here
  | cons c rest ih =>
    -- A place in the rest is one further on in the whole text.
    rw [exists_first_iff, first?]
    simp only [List.drop_zero, List.drop_succ_cons, ← ih, ← exact]
    cases read (c :: rest) <;> simp

theorem first?_eq_none_iff {Found : Type} {read : List Char → Option Found} {sql : List Char} :
    first? read sql = none ↔ ∀ place, read (sql.drop place) = none := by
  induction sql with
  | nil => simp only [first?, List.drop_nil, forall_const]
  | cons c rest ih =>
    rw [first?, ← Nat.and_forall_add_one]
    simp only [List.drop_zero, List.drop_succ_cons, ← ih]
    cases read (c :: rest) <;> simp

end Clause

open Clause Text

def InsertClause.At (sql : List Char) (place : Nat) : InsertClause → Prop :=
  Front InsertClause.Written (sql.drop place)

def UpdateClause.At (sql : List Char) (place : Nat) : UpdateClause → Prop :=
  Longest UpdateClause.Written (·.assignments.length) (sql.drop place)

def DeleteClause.At (sql : List Char) (place : Nat) : DeleteClause → Prop :=
  Front DeleteClause.Written (sql.drop place)

/-- A table clause at a place where its word starts a word. -/
def Clause.TableAt (sql : List Char) (place : Nat) (table : List Char) : Prop :=
  startsWord (sql.take place).getLast? = true ∧
    Longest TableWritten List.length (sql.drop place) table

theorem insertClause?_eq_some_iff {sql : List Char} {clause : InsertClause} :
    insertClause? sql = some clause ↔ ∃ place, First (InsertClause.At sql) place clause :=
  first?_eq_some_iff (fun _ _ => insertHere?_eq_some_iff) sql clause

theorem updateClause?_eq_some_iff {sql : List Char} {clause : UpdateClause} :
    updateClause? sql = some clause ↔ ∃ place, First (UpdateClause.At sql) place clause :=
  first?_eq_some_iff (fun _ _ => updateHere?_eq_some_iff) sql clause

theorem deleteClause?_eq_some_iff {sql : List Char} {clause : DeleteClause} :
    deleteClause? sql = some clause ↔ ∃ place, First (DeleteClause.At sql) place clause :=
  first?_eq_some_iff (fun _ _ => deleteHere?_eq_some_iff) sql clause

namespace Clause

theorem tableFrom?_eq_some_iff {previous : Option Char} {text table : List Char} :
    tableFrom? previous text = some table ↔
      ∃ place, First (fun place found =>
        startsWord ((text.take place).getLast?.or previous) = true ∧
          Longest TableWritten List.length (text.drop place) found) place table := by
  induction text generalizing previous with
  | nil =>
    simp only [tableFrom?, reduceCtorEq, List.drop_nil, false_iff]
    rintro ⟨place, ⟨-, ⟨_, ⟨-, -, -, -, named⟩, within⟩, -⟩, -⟩
    exact named.nonempty (List.append_eq_nil_iff.mp (List.prefix_nil.mp within)).2
  | cons c rest ih =>
    have carried : ∀ place, ((c :: rest).take (place + 1)).getLast?.or previous =
        (rest.take place).getLast?.or (some c) := by
      intro place
      rw [List.take_succ_cons, List.getLast?_cons]
      cases (rest.take place).getLast? <;> rfl
    rw [exists_first_iff, tableFrom?]
    simp only [carried, List.drop_succ_cons, List.drop_zero, List.take_zero, List.getLast?_nil,
      Option.none_or, ← ih]
    simp only [← tableHere?_eq_some_iff]
    cases tableHere? previous (c :: rest) <;> simp

theorem tableName?_eq_some_iff {sql table : List Char} :
    tableName? sql = some table ↔ ∃ place, First (TableAt sql) place table := by
  rw [tableName?, tableFrom?_eq_some_iff]
  simp only [Option.or_none]
  rfl

end Clause

end RecordSql
