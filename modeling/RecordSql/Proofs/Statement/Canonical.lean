import RecordSql.Proofs.Statement.Forms
import RecordSql.Proofs.Statement.Payload

/-!
Statements as they are usually written, and what is planned for them. Planning gets back
the table and the names that a statement was written with, whatever stands between its
brackets and behind its equals signs.
-/

namespace RecordSql

inductive Canonical where
  | insert (table : String) (columns : List String) (values : String)
  | select (table : String)
  | update (table : String) (assignments : List (String × String))
  | delete (table : String)

namespace Canonical

def text : Canonical → String
  | .insert table columns values =>
      "INSERT INTO " ++ table ++ " (" ++ ", ".intercalate columns ++ ") VALUES (" ++ values ++ ")"
  | .select table => "SELECT * FROM " ++ table
  | .update table assignments =>
      "UPDATE " ++ table ++ " SET " ++
        ", ".intercalate (assignments.map fun (field, source) => field ++ " = " ++ source) ++
        " WHERE id = ?"
  | .delete table => "DELETE FROM " ++ table ++ " WHERE id = ?"

theorem text_insert (table values : String) (columns : List String) :
    (insert table columns values).text = "INSERT INTO " ++ table ++ " (" ++
      ", ".intercalate columns ++ ") VALUES (" ++ values ++ ")" := rfl

theorem text_select (table : String) : (select table).text = "SELECT * FROM " ++ table := rfl

theorem text_update (table : String) (assignments : List (String × String)) :
    (update table assignments).text = "UPDATE " ++ table ++ " SET " ++
      ", ".intercalate (assignments.map fun (field, source) => field ++ " = " ++ source) ++
      " WHERE id = ?" := rfl

theorem text_delete (table : String) :
    (delete table).text = "DELETE FROM " ++ table ++ " WHERE id = ?" := rfl

/-- A name of ASCII letters, digits and underscores. -/
structure IsTable (table : String) : Prop where
  nonempty : table ≠ ""
  plain : ∀ c ∈ table.toList, c.isAlphanum = true ∨ c = '_'

-- Over the characters of the name, and not over all that there are.
instance (table : String) : Decidable (IsTable table) :=
  decidable_of_iff
    (table ≠ "" ∧ table.toList.all (fun c => c.isAlphanum || c == '_') = true)
    ⟨fun ⟨nonempty, plain⟩ => ⟨nonempty, by simpa using plain⟩,
      fun ⟨nonempty, plain⟩ => ⟨nonempty, by simpa using plain⟩⟩

/-- A statement that can be read back, with enough parameters to have a key. -/
def Proper (params : List Value) : Canonical → Prop
  | .insert table columns values =>
      IsTable table ∧ columns ≠ [] ∧ (∀ column ∈ columns, IsName [',', ')'] column) ∧
        values ≠ "" ∧ ')' ∉ values.toList
  | .select table => IsTable table
  | .update table assignments =>
      IsTable table ∧ assignments ≠ [] ∧
        (∀ assignment ∈ assignments, IsName [',', '=', '\n'] assignment.1 ∧
          ',' ∉ assignment.2.toList ∧ '\n' ∉ assignment.2.toList) ∧
        assignments.length < params.length
  | .delete table => IsTable table

instance (params : List Value) : (statement : Canonical) → Decidable (statement.Proper params)
  | .insert _ _ _ => inferInstanceAs (Decidable (_ ∧ _))
  | .select _ => inferInstanceAs (Decidable (IsTable _))
  | .update _ _ => inferInstanceAs (Decidable (_ ∧ _))
  | .delete _ => inferInstanceAs (Decidable (IsTable _))

/-- What is planned for a statement. The names of an INSERT take their parameters, except
for an `id` that has none; the key of an UPDATE is the last parameter, that of a DELETE the
first, and without a key there is only its error. -/
def Plans (params : List Value) (planned : Except Failure Plan) : Canonical → Prop
  | .insert table columns _ => ∃ values, planned = .ok (.insert table values) ∧
      values.Takes (fun name index => ¬(name = Record.keyField ∧ params.length ≤ index))
        columns params
  | .select table => planned = .ok (.select table)
  | .update table assignments => ∃ updates : Record,
      updates.Takes (fun _ _ => True) (assignments.map (·.1)) params ∧
      planned = (Key.ofValue .update params.getLast?).map fun key => .update table key updates
  | .delete table =>
      planned = (Key.ofValue .delete params.head?).map fun key => .delete table key

def planned (params : List Value) : Canonical → Except Failure Plan
  | .insert table columns _ => .ok (.insert table (Payload.insertedFields columns params))
  | .select table => .ok (.select table)
  | .update table assignments => (Key.ofValue .update params.getLast?).map fun key =>
      .update table key (Payload.assign (assignments.map (·.1)) params)
  | .delete table => (Key.ofValue .delete params.head?).map fun key => .delete table key

/-- The statement with placeholders for everything that it holds besides names. -/
def blanked : Canonical → Canonical
  | .insert table columns _ => .insert table columns "?"
  | .update table assignments => .update table (assignments.map fun (field, _) => (field, "?"))
  | .select table => .select table
  | .delete table => .delete table

open Text Clause

def selectWords : List Char := "SELECT * FROM ".toList

namespace IsTable

variable {table : String} (name : IsTable table)
include name

theorem toList_ne_nil : table.toList ≠ [] := fun none =>
  name.nonempty (String.toList_eq_nil_iff.mp none)

theorem named : ∀ c ∈ table.toList, isNameChar c = true := by
  intro c held
  rcases name.plain c held with plain | rfl
  · simp [isNameChar, plain]
  · rfl

theorem isNamed : Named table.toList := ⟨name.toList_ne_nil, name.named⟩

/-- Each kind of statement has its table word right before the name, and none earlier. -/
theorem resolved {lead rest : List Char}
    (leads : lead ∈ [insertWords, selectWords, updateWords, deleteWords])
    (stops : rest.head?.all (!isNameChar ·) = true) :
    resolveCollection .perStatement (lead ++ (table.toList ++ rest)) = .ok table := by
  have found : readTable (' ' :: (table.toList ++ rest)) = some table.toList :=
    readTable_append (by rfl) name.toList_ne_nil name.named stops
  have first : tableName? (lead ++ (table.toList ++ rest)) = some table.toList := by
    simp only [List.mem_cons, List.not_mem_nil, or_false] at leads
    rcases leads with rfl | rfl | rfl | rfl
    · exact @tableFrom?_of_word (some ' ') "INTO".toList _ _ rfl (by decide) found
    · exact @tableFrom?_of_word (some ' ') "FROM".toList _ _ rfl (by decide) found
    · exact @tableFrom?_of_word none "UPDATE".toList _ _ rfl (by decide) found
    · exact @tableFrom?_of_word (some ' ') "FROM".toList _ _ rfl (by decide) found
  simp only [resolveCollection, first, String.ofList_toList]

section Planned

variable {rest : List Char} (stops : rest.head?.all (!isNameChar ·) = true)
  (params : List Value)
include stops

theorem planOf_insert :
    planOf .perStatement (insertWords ++ (table.toList ++ rest)) params =
      .ok (.insert table (Payload.ofInsert (insertWords ++ (table.toList ++ rest)) params)) := by
  have kind : StatementKind.classify (insertWords ++ (table.toList ++ rest)) = .insert := rfl
  have collection : resolveCollection .perStatement (insertWords ++ (table.toList ++ rest)) =
      .ok table := name.resolved (by decide) stops
  simp only [planOf, kind, collection]
  rfl

theorem planOf_select :
    planOf .perStatement (selectWords ++ (table.toList ++ rest)) params =
      .ok (.select table) := by
  have kind : StatementKind.classify (selectWords ++ (table.toList ++ rest)) = .select := rfl
  have collection : resolveCollection .perStatement (selectWords ++ (table.toList ++ rest)) =
      .ok table := name.resolved (by decide) stops
  simp only [planOf, kind, collection]
  rfl

theorem planOf_update {payload : UpdatePayload}
    (read : Payload.ofUpdate (updateWords ++ (table.toList ++ rest)) params = payload) :
    planOf .perStatement (updateWords ++ (table.toList ++ rest)) params =
      (Key.ofValue .update payload.key?).map fun key => .update table key payload.updates := by
  have kind : StatementKind.classify (updateWords ++ (table.toList ++ rest)) = .update := rfl
  have collection : resolveCollection .perStatement (updateWords ++ (table.toList ++ rest)) =
      .ok table := name.resolved (by decide) stops
  simp only [planOf, kind, collection, read]
  cases Key.ofValue .update payload.key? <;> rfl

theorem planOf_delete {key? : Option Value}
    (read : Payload.ofDelete (deleteWords ++ (table.toList ++ rest)) params = key?) :
    planOf .perStatement (deleteWords ++ (table.toList ++ rest)) params =
      (Key.ofValue .delete key?).map fun key => .delete table key := by
  have kind : StatementKind.classify (deleteWords ++ (table.toList ++ rest)) = .delete := rfl
  have collection : resolveCollection .perStatement (deleteWords ++ (table.toList ++ rest)) =
      .ok table := name.resolved (by decide) stops
  simp only [planOf, kind, collection, read]
  cases Key.ofValue .delete key? <;> rfl

end Planned

end IsTable

theorem mem_joined {parts : List String} {c : Char}
    (held : c ∈ (", ".intercalate parts).toList) :
    c = ',' ∨ c = ' ' ∨ ∃ part ∈ parts, c ∈ part.toList := by
  rw [String.toList_intercalate] at held
  induction parts with
  | nil => cases held
  | cons first others ih =>
    cases others with
    | nil => exact .inr (.inr ⟨first, List.mem_cons_self, by simpa using held⟩)
    | cons second others =>
      rw [List.map_cons, List.map_cons, List.intercalate_cons_cons] at held
      rcases List.mem_append.mp held with before | later
      · rcases List.mem_append.mp before with inFirst | between
        · exact .inr (.inr ⟨first, List.mem_cons_self, inFirst⟩)
        · rcases List.mem_cons.mp between with rfl | blank
          · exact .inl rfl
          · exact .inr (.inl (List.mem_singleton.mp blank))
      · rcases ih later with comma | blank | ⟨part, present, inPart⟩
        · exact .inl comma
        · exact .inr (.inl blank)
        · exact .inr (.inr ⟨part, List.mem_cons_of_mem _ present, inPart⟩)

theorem joined_ne_nil {parts : List String} (some : parts ≠ [])
    (nonempty : ∀ part ∈ parts, part ≠ "") : (", ".intercalate parts).toList ≠ [] := by
  rw [String.toList_intercalate]
  obtain ⟨first, others, rfl⟩ := List.exists_cons_of_ne_nil some
  have solid : first.toList ≠ [] := fun none =>
    nonempty first List.mem_cons_self (String.toList_eq_nil_iff.mp none)
  cases others with
  | nil => simpa using solid
  | cons second others =>
    rw [List.map_cons, List.map_cons, List.intercalate_cons_cons]
    simp

theorem joined_free {parts : List String} {c : Char} (comma : c ≠ ',') (blank : c ≠ ' ')
    (free : ∀ part ∈ parts, c ∉ part.toList) : c ∉ (", ".intercalate parts).toList := by
  intro held
  rcases mem_joined held with same | same | ⟨part, present, inPart⟩
  · exact comma same
  · exact blank same
  · exact free part present inPart

theorem plan_insert {table values : String} {columns : List String} {params : List Value}
    (proper : (insert table columns values).Proper params) :
    plan .perStatement (insert table columns values).text params =
      (insert table columns values).planned params := by
  obtain ⟨name, some, names, given, inside⟩ := proper
  have written : (insert table columns values).text.toList =
      insertWords ++ (table.toList ++ ([' ', '('] ++ ((", ".intercalate columns).toList ++
        (valuesWords ++ (values.toList ++ [')']))))) := by
    simp only [text_insert, String.toList_append, List.append_assoc]
    rfl
  have listed : (", ".intercalate columns).toList ≠ [] :=
    joined_ne_nil some fun column held => (names column held).nonempty
  have columnsOpen : ')' ∉ (", ".intercalate columns).toList :=
    joined_free (by decide) (by decide) fun column held =>
      (names column held).free ')' (by decide)
  have filled : values.toList ≠ [] := fun none => given (String.toList_eq_nil_iff.mp none)
  have clause := first?_of_start
    (insertHere?_written name.isNamed ⟨listed, columnsOpen⟩ ⟨filled, inside⟩)
  rw [plan, written, name.planOf_insert rfl, Payload.ofInsert_read params clause,
    Payload.columnNames_joined some names (List.mem_cons_self ..), planned]

theorem plan_select {table : String} (name : IsTable table) (params : List Value) :
    plan .perStatement (select table).text params = (select table).planned params := by
  have written : (select table).text.toList = selectWords ++ (table.toList ++ []) := by
    simp only [text_select, String.toList_append, List.append_nil]
    rfl
  rw [plan, written, name.planOf_select rfl, planned]

theorem plan_update {table : String} {assignments : List (String × String)}
    {params : List Value} (proper : (update table assignments).Proper params) :
    plan .perStatement (update table assignments).text params =
      (update table assignments).planned params := by
  obtain ⟨name, some, parts, keyed⟩ := proper
  have names : ∀ assignment ∈ assignments, IsName [',', '=', '\n'] assignment.1 :=
    fun assignment held => (parts assignment held).1
  let joined := ", ".intercalate
    (assignments.map fun (field, source) => field ++ " = " ++ source)
  have written : (update table assignments).text.toList =
      updateWords ++ (table.toList ++ (setWords ++ (joined.toList ++
        " WHERE id = ?".toList))) := by
    simp only [text_update, String.toList_append, List.append_assoc]
    rfl
  have listed : joined.toList ≠ [] := by
    refine joined_ne_nil (by simpa using some) fun part held => ?_
    obtain ⟨assignment, present, rfl⟩ := List.mem_map.mp held
    exact fun none => (names assignment present).nonempty (by simp_all)
  have line : '\n' ∉ joined.toList := by
    refine joined_free (by decide) (by decide) fun part held => ?_
    obtain ⟨assignment, present, rfl⟩ := List.mem_map.mp held
    simp [(names assignment present).free '\n' (by decide), (parts assignment present).2.2]
  have clause := first?_of_start
    (updateHere?_written name.isNamed listed line)
  have fields : Payload.assignedFields joined.toList = assignments.map (·.1) :=
    Payload.assignedFields_joined some (by decide) (by decide) names fun assignment held =>
      (parts assignment held).2.1
  have read := Payload.ofUpdate_read params clause fields (by simpa using keyed)
  rw [plan, written, name.planOf_update rfl params read, Key.ofValue_given?, planned]

theorem plan_delete {table : String} (name : IsTable table) (params : List Value) :
    plan .perStatement (delete table).text params = (delete table).planned params := by
  have written : (delete table).text.toList =
      deleteWords ++ (table.toList ++ " WHERE id = ?".toList) := by
    simp only [text_delete, String.toList_append, List.append_assoc]
    rfl
  have clause := first?_of_start (deleteHere?_written name.isNamed)
  have read := Payload.ofDelete_read params clause
  rw [plan, written, name.planOf_delete rfl params read, Key.ofValue_given?, planned]

/-- Planning a statement that was written properly gets everything back. -/
theorem plan_text {statement : Canonical} {params : List Value}
    (proper : statement.Proper params) :
    plan .perStatement statement.text params = statement.planned params := by
  cases statement with
  | insert table columns values => exact plan_insert proper
  | select table => exact plan_select proper params
  | update table assignments => exact plan_update proper
  | delete table => exact plan_delete proper params

theorem Proper.blanked {statement : Canonical} {params : List Value}
    (proper : statement.Proper params) : statement.blanked.Proper params := by
  cases statement with
  | insert table columns values =>
    obtain ⟨name, some, names, -, -⟩ := proper
    exact ⟨name, some, names, by decide, by decide⟩
  | select table | delete table => exact proper
  | update table assignments =>
    obtain ⟨name, some, parts, keyed⟩ := proper
    refine ⟨name, by simpa using some, fun assignment held => ?_, by simpa using keyed⟩
    obtain ⟨⟨field, source⟩, present, rfl⟩ := List.mem_map.mp held
    have unstopped : ',' ∉ "?".toList ∧ '\n' ∉ "?".toList := by decide
    exact ⟨(parts (field, source) present).1, unstopped⟩

theorem planned_blanked (statement : Canonical) (params : List Value) :
    statement.blanked.planned params = statement.planned params := by
  cases statement with
  | insert | select | delete => rfl
  | update table assignments => simp [blanked, planned, Function.comp_def]

/-- A statement that was written properly is planned for the table and the names that it
was written with, and nothing else in it is read. -/
theorem planning_inverts_writing (statement : Canonical) (params : List Value)
    (proper : statement.Proper params) :
    statement.Plans params (plan .perStatement statement.text params) ∧
      plan .perStatement statement.text params =
        plan .perStatement statement.blanked.text params := by
  rw [plan_text proper, plan_text proper.blanked, planned_blanked]
  refine ⟨?_, rfl⟩
  cases statement with
  | insert table columns values => exact ⟨_, rfl, Payload.insertedFields_takes columns params⟩
  | select | delete => rfl
  | update table assignments => exact ⟨_, Payload.assign_takes _ params, rfl⟩

/-- An UPDATE that writes one field twice, and words of statements into its values. -/
def wordy : Canonical := .update "t" [("a b", "1 = FROM u SET"), ("a b", "'x' WHERE id = 2")]

theorem wordy_update_is_planned :
    wordy.Proper [.integer 1, .null, .integer 7] ∧
      wordy.Plans [.integer 1, .null, .integer 7]
        (plan .perStatement wordy.text [.integer 1, .null, .integer 7]) := by
  have proper : wordy.Proper [.integer 1, .null, .integer 7] := by decide +kernel
  exact ⟨proper, (planning_inverts_writing wordy _ proper).1⟩

end Canonical

end RecordSql
