import RecordSql.Proofs.Statement.Payload
import RecordSql.Proofs.Statement.Places
import RecordSql.Proofs.Statement.Plan

/-!
The table that a clause was written for and the collection that its plan works on. They are
found apart: the payload is read from the first clause of the statement's kind, the collection
from the first table clause of all. The clause holds a table clause of its own, so that the two
agree unless another one stands before it, or its word does not start a word of the text.
-/

namespace RecordSql

open Clause Text

namespace Clause

theorem TableAt.unique {sql table other : List Char} {place : Nat} (here : TableAt sql place table)
    (also : TableAt sql place other) : table = other := by
  have found := tableHere?_eq_some_iff.mpr here
  exact Option.some.inj (found.symm.trans (tableHere?_eq_some_iff.mpr also))

/-- A name is found whole where it is over. -/
theorem longest_of_word {word lead table rest : List Char} (listed : word ∈ tableWords)
    (leads : Spells word lead) (named : Named table)
    (ends : rest.head?.all (!isNameChar ·) = true) :
    Longest TableWritten List.length (lead ++ (' ' :: (table ++ rest))) table := by
  have name : readTable (' ' :: (table ++ rest)) = some table :=
    readTable_append (by rfl) named.nonempty named.named ends
  have found := findTable_of_word listed (Option.bind_eq_some_iff.mpr ⟨_, leads.dropped _, name⟩)
  have here : tableHere? none (lead ++ (' ' :: (table ++ rest))) = some table :=
    (if_pos rfl).trans found
  exact (tableHere?_eq_some_iff.mp here).2

/-- The second word of a clause, between single blanks, is the word of a table clause. -/
theorem tableAt_second {sql first word lead table rest : List Char} {place : Nat}
    (listed : word ∈ tableWords) (spelled : Spells (first ++ [' '] ++ (word ++ [' '])) lead)
    (named : Named table) (ends : rest.head?.all (!isNameChar ·) = true)
    (whole : sql.drop place = lead ++ (table ++ rest)) :
    TableAt sql (place + (first.length + 1)) table := by
  obtain ⟨_, _, firstSpelled, secondSpelled, rfl⟩ := spelled.append_left
  obtain ⟨start, _, starts, blank, rfl⟩ := firstSpelled.append_left
  obtain ⟨second, _, seconds, alsoBlank, rfl⟩ := secondSpelled.append_left
  obtain rfl := blank.single (by decide)
  obtain rfl := alsoBlank.single (by decide)
  have size : (start ++ [' ']).length = first.length + 1 := by
    rw [List.length_append, ← starts.length_eq]
    rfl
  have before : sql.take (place + (first.length + 1)) = sql.take place ++ (start ++ [' ']) := by
    rw [List.take_add, whole, List.append_assoc, ← size, List.take_left']
    rfl
  have behind : sql.drop (place + (first.length + 1)) =
      second ++ (' ' :: (table ++ rest)) := by
    rw [← List.drop_drop, whole, List.append_assoc, ← size, List.drop_left']
    · simp only [List.append_assoc, List.singleton_append]
    · rfl
  -- The blank between the words is why the second one starts a word of the text.
  refine ⟨?_, behind ▸ longest_of_word listed seconds named ends⟩
  rw [before, List.getLast?_append, List.getLast?_concat]
  rfl

/-- What follows a name in a clause begins with a blank. -/
theorem ends_of_spells {word gap : List Char} (spelled : Spells (' ' :: word) gap)
    (rest : List Char) : (gap ++ rest).head?.all (!isNameChar ·) = true := by
  obtain ⟨later, -, rfl⟩ := spelled.symbol (by decide)
  rfl

end Clause

theorem InsertClause.At.table {sql : List Char} {place : Nat} {clause : InsertClause}
    (here : InsertClause.At sql place clause) : TableAt sql (place + 7) clause.table := by
  obtain ⟨_, ⟨leads, named, opens, -, -, -, -⟩, rest, whole⟩ := here
  simp only [List.append_assoc] at whole
  exact @tableAt_second _ "INSERT".toList "INTO".toList _ _ _ _ (by decide) leads named
    (ends_of_spells opens _) whole.symm

theorem DeleteClause.At.table {sql : List Char} {place : Nat} {clause : DeleteClause}
    (here : DeleteClause.At sql place clause) : TableAt sql (place + 7) clause.table := by
  obtain ⟨_, ⟨leads, named, keyed⟩, rest, whole⟩ := here
  simp only [List.append_assoc] at whole
  exact @tableAt_second _ "DELETE".toList "FROM".toList _ _ _ _ (by decide) leads named
    (ends_of_spells keyed _) whole.symm

/-- The word of an UPDATE is its table word, but need not start a word of the text. -/
theorem UpdateClause.At.table {sql : List Char} {place : Nat} {clause : UpdateClause}
    (here : UpdateClause.At sql place clause)
    (starts : startsWord (sql.take place).getLast? = true) : TableAt sql place clause.table := by
  obtain ⟨⟨_, ⟨leads, named, sets, -, -, -⟩, rest, whole⟩, -⟩ := here
  obtain ⟨word, _, wordSpelled, blank, rfl⟩ :=
    @Spells.append_left "UPDATE".toList [' '] _ leads
  obtain rfl := blank.single (by decide)
  refine ⟨starts, ?_⟩
  rw [← whole]
  simp only [List.append_assoc, List.singleton_append]
  exact longest_of_word (by decide) wordSpelled named (ends_of_spells sets _)

/-- A plan that writes what it read from a clause. -/
def Plan.Carries : Plan → Prop
  | .insert _ values => values ≠ .empty
  | .select _ => False
  | .update _ _ _ => True
  | .delete _ _ => True

/-- The plan's payload is that of the first clause of its kind. This clause holds the table,
right after the table word at the place. -/
inductive Plan.ReadFrom (sql : List Char) (params : List Value) : Plan → Nat → List Char → Prop
  | insert {collection : String} {place : Nat} {clause : InsertClause}
      (first : First (InsertClause.At sql) place clause) :
      ReadFrom sql params
        (.insert collection (Payload.insertedFields (Payload.columnNames clause.columns) params))
        (place + 7) clause.table
  | update {collection : String} {key : Key} {place : Nat} {clause : UpdateClause}
      (first : First (UpdateClause.At sql) place clause)
      (keyed : Key.ofValue .update params.getLast? = .ok key) :
      ReadFrom sql params
        (.update collection key (Payload.assign (Payload.assignedFields clause.assignments) params))
        place clause.table
  | delete {collection : String} {key : Key} {place : Nat} {clause : DeleteClause}
      (first : First (DeleteClause.At sql) place clause)
      (keyed : Key.ofValue .delete params.head? = .ok key) :
      ReadFrom sql params (.delete collection key) (place + 7) clause.table

theorem Planned.readFrom {mode : CollectionMode} {sql : List Char} {params : List Value}
    {plan : Plan} (planned : Planned mode sql params plan) (carries : plan.Carries) :
    ∃ word table, plan.ReadFrom sql params word table := by
  cases planned with
  | insert =>
    cases found : insertClause? sql with
    | none =>
      have none : Payload.ofInsert sql params = .empty := by rw [Payload.ofInsert, found]
      exact absurd none carries
    | some clause =>
      obtain ⟨place, first⟩ := insertClause?_eq_some_iff.mp found
      rw [Payload.ofInsert_read params found]
      exact ⟨_, _, .insert first⟩
  | select => exact carries.elim
  | update _ _ keyed =>
    obtain ⟨clause, found, -, keyed⟩ := Payload.ofUpdate_keyed_iff.mp keyed
    obtain ⟨place, first⟩ := updateClause?_eq_some_iff.mp found
    rw [Payload.ofUpdate_updates found]
    exact ⟨_, _, .update first keyed⟩
  | delete _ _ keyed =>
    obtain ⟨⟨clause, found⟩, keyed⟩ := Payload.ofDelete_keyed_iff.mp keyed
    obtain ⟨place, first⟩ := deleteClause?_eq_some_iff.mp found
    exact ⟨_, _, .delete first keyed⟩

namespace Plan.ReadFrom

variable {sql table : List Char} {params : List Value} {plan : Plan} {word : Nat}

/-- The word before the table of a clause is that of a table clause, if it starts a word. -/
theorem tableAt (source : plan.ReadFrom sql params word table)
    (starts : startsWord (sql.take word).getLast? = true) : TableAt sql word table := by
  cases source with
  | insert first => exact first.here.table
  | update first _ => exact first.here.table starts
  | delete first _ => exact first.here.table

theorem startsWord_of_ne_update (source : plan.ReadFrom sql params word table)
    (other : plan.kind ≠ .update) : startsWord (sql.take word).getLast? = true := by
  cases source with
  | insert first => exact first.here.table.1
  | update => exact absurd rfl other
  | delete first _ => exact first.here.table.1

end Plan.ReadFrom

/-- Where a plan has its payload and where it has its collection from. -/
structure Plan.Sources (sql : List Char) (params : List Value) (plan : Plan) (word : Nat)
    (table : List Char) (place : Nat) : Prop where
  payload : plan.ReadFrom sql params word table
  collection : First (TableAt sql) place plan.collection.toList
  starts : plan.kind ≠ .update → startsWord (sql.take word).getLast? = true
  same_iff : place = word ∧ plan.collection = String.ofList table ↔
    startsWord (sql.take word).getLast? = true ∧
      ∀ earlier < word, ∀ other, ¬TableAt sql earlier other

theorem resolveCollection_table {sql : List Char} {collection : String}
    (resolved : resolveCollection .perStatement sql = .ok collection) :
    ∃ place, First (TableAt sql) place collection.toList := by
  rw [resolveCollection] at resolved
  split at resolved
  case h_1 table found =>
    obtain rfl := Except.ok.inj resolved
    rw [String.toList_ofList]
    exact tableName?_eq_some_iff.mp found
  case h_2 => cases resolved

/-- The collection of a plan is the table of the first table clause, wherever the payload was
read. It is the table of the payload's own clause exactly if no other table clause stands
before it; the word of an UPDATE must start a word besides. -/
theorem collection_is_of_first_table (sql : String) (params : List Value) (plan : Plan)
    (planned : RecordSql.plan .perStatement sql params = .ok plan) (carries : plan.Carries) :
    ∃ word table place, plan.Sources sql.toList params word table place := by
  obtain ⟨word, table, source⟩ := (planOf_ok_iff.mp planned).readFrom carries
  obtain ⟨place, first⟩ := resolveCollection_table (planOf_collection planned)
  refine ⟨word, table, place, source, first, source.startsWord_of_ne_update, ?_⟩
  constructor
  · rintro ⟨rfl, -⟩
    exact ⟨first.here.1, first.first⟩
  · rintro ⟨starts, none⟩
    have own : First (TableAt sql.toList) word table := ⟨source.tableAt starts, none⟩
    obtain rfl := first.place_eq own
    refine ⟨rfl, ?_⟩
    rw [← first.here.unique own.here, String.ofList_toList]

/-- An UPDATE that stands behind another statement's beginning. -/
def trailingUpdate : String := "UPDATE; UPDATE t SET a = 'UPDATE u', b = ? WHERE id = ?"

def trailingUpdatePlan : Plan :=
  .update "t" 7 (.ofList [("a", .integer 1), ("b", .integer 2)])

theorem trailing_update_has_own_table :
    plan .perStatement trailingUpdate [.integer 1, .integer 2, .integer 7] =
        .ok trailingUpdatePlan ∧
      trailingUpdatePlan.Carries ∧
      ∃ word table place, trailingUpdatePlan.Sources trailingUpdate.toList
        [.integer 1, .integer 2, .integer 7] word table place := by
  have planned : plan .perStatement trailingUpdate [.integer 1, .integer 2, .integer 7] =
      .ok trailingUpdatePlan := rfl
  exact ⟨planned, trivial, collection_is_of_first_table _ _ _ planned trivial⟩

/-- Two blanks keep the first DELETE from being read, but not from naming the table. -/
def spacedDelete : String := "DELETE  FROM a; DELETE FROM b WHERE id = ?"

theorem collection_of_another_clause :
    ¬∀ (sql : String) (params : List Value) (plan : Plan),
      RecordSql.plan .perStatement sql params = .ok plan → plan.Carries →
        ∃ word table, plan.ReadFrom sql.toList params word table ∧
          plan.collection = String.ofList table := by
  intro claim
  have planned : plan .perStatement spacedDelete [.integer 1] = .ok (.delete "a" 1) := rfl
  have clause : deleteClause? spacedDelete.toList = some ⟨['b']⟩ := rfl
  obtain ⟨word, table, source, same⟩ := claim spacedDelete [.integer 1] _ planned trivial
  cases source with
  | @delete _ _ place found first keyed =>
    have read := deleteClause?_eq_some_iff.mpr ⟨place, first⟩
    obtain rfl := Option.some.inj (clause.symm.trans read)
    exact absurd same (by decide)

/-- The word of the clause does not start a word of the text here, and the table clause that
counts stands behind. -/
example : plan .perStatement "UPDATExUPDATE t SET a=? WHERE id = ? FROM u"
    [.integer 5, .integer 1] = .ok (.update "u" 1 (.ofList [("a", .integer 5)])) := rfl

end RecordSql
