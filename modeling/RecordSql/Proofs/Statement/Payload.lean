import RecordSql.Proofs.SortedMap
import RecordSql.Proofs.Text.Cutting
import RecordSql.Statement.Plan
import Mathlib.Data.List.Induction

/-!
What is read out of a clause. The names are those that the clause was written with, and
of the places of one name the last gives its parameter.
-/

namespace RecordSql

/-- A name as statements are written with: not empty, without blanks at its ends, and
without the characters that would end it. -/
structure IsName (stops : List Char) (name : String) : Prop where
  nonempty : name ≠ ""
  trimmed : Text.trim name.toList = name.toList
  free : ∀ c ∈ stops, c ∉ name.toList

instance (stops : List Char) (name : String) : Decidable (IsName stops name) :=
  decidable_of_iff (name ≠ "" ∧ Text.trim name.toList = name.toList ∧
      stops.all (fun c => !name.toList.contains c) = true)
    ⟨fun ⟨nonempty, trimmed, free⟩ => ⟨nonempty, trimmed, by simpa using free⟩,
      fun ⟨nonempty, trimmed, free⟩ => ⟨nonempty, trimmed, by simpa using free⟩⟩

/-- The last place of a name among those that count. -/
structure LastPlace (Counts : String → Nat → Prop) (names : List String) (name : String)
    (index : Nat) : Prop where
  here : names[index]? = some name
  counts : Counts name index
  last : ∀ later, index < later → names[later]? = some name → ¬Counts name later

namespace LastPlace

variable {Counts : String → Nat → Prop} {names : List String} {name : String} {index : Nat}

theorem lt (place : LastPlace Counts names name index) : index < names.length :=
  (List.getElem?_eq_some_iff.mp place.here).1

/-- A place at the end is the last one, if it counts. -/
theorem concat_self (counts : Counts name names.length) :
    LastPlace Counts (names ++ [name]) name index ↔ index = names.length := by
  have final : (names ++ [name])[names.length]? = some name := List.getElem?_concat_length
  have within : ∀ {place}, place < (names ++ [name]).length → place ≤ names.length := by
    intro place short
    rw [List.length_append] at short
    exact Nat.le_of_lt_succ short
  constructor
  · intro place
    by_contra differ
    have before := Nat.lt_of_le_of_ne (within place.lt) differ
    exact place.last _ before final counts
  · rintro rfl
    refine ⟨final, counts, fun later above held => ?_⟩
    have short := within (List.getElem?_eq_some_iff.mp held).1
    exact absurd above (Nat.not_lt.mpr short)

/-- A place at the end that does not count, or has another name, changes nothing. -/
theorem concat_of_passed {final : String} (passed : ¬(name = final ∧ Counts name names.length)) :
    LastPlace Counts (names ++ [final]) name index ↔ LastPlace Counts names name index := by
  have same : ∀ place, (names ++ [final])[place]? = some name ∧ Counts name place ↔
      names[place]? = some name ∧ Counts name place := by
    intro place
    rw [List.getElem?_append]
    split
    · rfl
    · next beyond =>
      have none : names[place]? = none := List.getElem?_eq_none (Nat.not_lt.mp beyond)
      simp only [none, reduceCtorEq, false_and, iff_false]
      rintro ⟨held, counts⟩
      obtain ⟨short, rfl⟩ := List.getElem?_eq_some_iff.mp held
      have atEnd : place = names.length := by
        rw [List.length_singleton] at short
        omega
      subst atEnd
      exact passed ⟨by simp, counts⟩
  constructor
  · intro place
    obtain ⟨here, counts⟩ := (same index).mp ⟨place.here, place.counts⟩
    exact ⟨here, counts, fun later above held again =>
      place.last later above ((same later).mpr ⟨held, again⟩).1 again⟩
  · intro place
    obtain ⟨here, counts⟩ := (same index).mpr ⟨place.here, place.counts⟩
    exact ⟨here, counts, fun later above held again =>
      place.last later above ((same later).mp ⟨held, again⟩).1 again⟩

theorem exists_iff : (∃ index, LastPlace (fun _ _ => True) names name index) ↔ name ∈ names := by
  induction names using List.reverseRecOn with
  | nil => exact ⟨fun ⟨index, place⟩ => absurd place.lt (Nat.not_lt_zero index), nofun⟩
  | append_singleton names final ih =>
    by_cases same : name = final
    · subst same
      simp [concat_self]
    · simp only [concat_of_passed fun both => same both.1, ih, List.mem_append,
        List.mem_singleton, same, or_false]

end LastPlace

/-- The fields of a record are these names, each with the parameter at its last place. -/
def Record.Takes (Counts : String → Nat → Prop) (names : List String) (params : List Value)
    (record : Record) : Prop :=
  ∀ name value, record.get? name = some value ↔
    ∃ index, LastPlace Counts names name index ∧ value = params[index]?.getD .null

theorem Record.Takes.unique {Counts : String → Nat → Prop} {names : List String}
    {params : List Value} {left right : Record} (takes : left.Takes Counts names params)
    (also : right.Takes Counts names params) : left = right := by
  apply SortedMap.ext_get?
  intro name
  apply Option.ext
  intro value
  rw [takes, also]

namespace Payload

open Text

/-- Names that are joined by commas are read back, if a blank in front of a piece makes no
difference to what is read from it. -/
theorem map_pieces_joined {Read : Type} {read : List Char → Read} {parts : List String}
    (blank : ∀ part ∈ parts, read (' ' :: part.toList) = read part.toList)
    (some : parts ≠ []) (free : ∀ part ∈ parts, ',' ∉ part.toList) :
    (pieces ',' (", ".intercalate parts).toList).map read =
      parts.map fun part => read part.toList := by
  obtain ⟨first, others, rfl⟩ := List.exists_cons_of_ne_nil some
  have apart : ∀ piece ∈ first.toList :: others.map String.toList, ',' ∉ piece := by
    intro piece held
    obtain ⟨part, present, rfl⟩ := List.mem_map.mp (List.map_cons ▸ held)
    exact free part present
  have joined : (", ".intercalate (first :: others)).toList =
      [',', ' '].intercalate (first.toList :: others.map String.toList) :=
    String.toList_intercalate
  rw [joined, pieces_intercalate (by decide) apart, List.map_cons, List.map_map, List.map_map]
  refine congrArg _ (List.map_congr_left fun part held => ?_)
  exact blank part (List.mem_cons_of_mem _ held)

theorem columnNames_joined {columns : List String} (some : columns ≠ []) {stops : List Char}
    (names : ∀ column ∈ columns, IsName stops column) (comma : ',' ∈ stops) :
    columnNames (", ".intercalate columns).toList = columns := by
  have blank : ∀ column ∈ columns, String.ofList (trim (' ' :: column.toList)) =
      String.ofList (trim column.toList) := fun column _ =>
    congrArg String.ofList (trim_cons_of_blank rfl column.toList)
  have free := fun column held => (names column held).free ',' comma
  rw [columnNames, map_pieces_joined blank some free]
  refine (List.map_congr_left fun column held => ?_).trans (List.map_id columns)
  rw [(names column held).trimmed, String.ofList_toList, id]

/-- Everything from the first equals sign on is cut off. -/
theorem assignedField_written {stops : List Char} {field : String} (name : IsName stops field)
    (equals : '=' ∈ stops) (source : String) :
    assignedField (field ++ " = " ++ source).toList = field := by
  have solid : field.toList ≠ [] := fun none => name.nonempty (String.toList_eq_nil_iff.mp none)
  have before : ∀ c ∈ field.toList ++ [' '], (c != '=') = true := by
    intro c held
    rw [bne_iff_ne]
    rintro rfl
    rcases List.mem_append.mp held with inField | blank
    · exact name.free '=' equals inField
    · exact absurd blank (by decide)
  have written : (field ++ " = " ++ source).toList =
      (field.toList ++ [' ']) ++ '=' :: (' ' :: source.toList) := by
    simp
  have start := trimStart_append (trimStart_of_trim name.trimmed) solid [' ']
  have cut : (field.toList ++ [' '] ++ '=' :: trimEnd (' ' :: source.toList)).takeWhile
      (· != '=') = field.toList ++ [' '] := by
    rw [List.takeWhile_append_of_pos before]
    simp
  rw [assignedField, written, trim_append_solid start (by simp) rfl, cut,
    trim_append_blank rfl name.trimmed solid, String.ofList_toList]

theorem assignedFields_joined {assignments : List (String × String)} (some : assignments ≠ [])
    {stops : List Char} (comma : ',' ∈ stops) (equals : '=' ∈ stops)
    (names : ∀ assignment ∈ assignments, IsName stops assignment.1)
    (sources : ∀ assignment ∈ assignments, ',' ∉ assignment.2.toList) :
    assignedFields (", ".intercalate
        (assignments.map fun (field, source) => field ++ " = " ++ source)).toList =
      assignments.map (·.1) := by
  have blank : ∀ part ∈ assignments.map fun (field, source) => field ++ " = " ++ source,
      assignedField (' ' :: part.toList) = assignedField part.toList := by
    intro part _
    rw [assignedField, trim_cons_of_blank rfl, assignedField]
  have free : ∀ part ∈ assignments.map fun (field, source) => field ++ " = " ++ source,
      ',' ∉ part.toList := by
    intro part held
    obtain ⟨assignment, present, rfl⟩ := List.mem_map.mp held
    simp [(names assignment present).free ',' comma, sources assignment present]
  rw [assignedFields, map_pieces_joined blank (by simpa using some) free, List.map_map]
  exact List.map_congr_left fun assignment held =>
    assignedField_written (names assignment held) equals assignment.2

section Read

variable {sql : List Char} (params : List Value)

theorem ofInsert_read {clause : InsertClause} (found : insertClause? sql = some clause) :
    ofInsert sql params = insertedFields (columnNames clause.columns) params := by
  rw [ofInsert, found]

theorem ofUpdate_read {clause : UpdateClause} (found : updateClause? sql = some clause)
    {names : List String} (fields : assignedFields clause.assignments = names)
    (keyed : names.length < params.length) :
    ofUpdate sql params = ⟨given? params.getLast?, assign names params⟩ := by
  subst fields
  rw [ofUpdate, found]
  exact congrArg (UpdatePayload.mk · _) (if_pos keyed)

theorem ofDelete_read {clause : DeleteClause} (found : deleteClause? sql = some clause) :
    ofDelete sql params = given? params.head? := by
  rw [ofDelete, found]

end Read

theorem ofPlaces_takes {Counts : String → Nat → Prop} {counts : String × Nat → Bool}
    (agrees : ∀ name index, counts (name, index) = true ↔ Counts name index)
    (names : List String) (params : List Value) :
    Record.Takes Counts names params (.ofList ((names.zipIdx.filter counts).map
      fun (name, index) => (name, parameter params index))) := by
  -- From the right: a later place of a name takes over from the earlier ones.
  induction names using List.reverseRecOn with
  | nil =>
    intro name value
    exact ⟨nofun, fun ⟨index, place, _⟩ => absurd place.lt (Nat.not_lt_zero index)⟩
  | append_singleton names final ih =>
    intro name value
    rw [List.zipIdx_append, List.filter_append, List.map_append]
    by_cases counted : Counts final names.length
    · have taken : counts (final, names.length) = true := (agrees _ _).mpr counted
      simp only [List.zipIdx_singleton, Nat.zero_add, List.filter_cons, List.filter_nil, taken,
        ↓reduceIte, List.map_cons, List.map_nil, SortedMap.ofList_concat, SortedMap.get?_insert]
      by_cases same : name = final
      · subst same
        simp only [↓reduceIte, LastPlace.concat_self counted, exists_eq_left, Option.some.injEq,
          parameter, eq_comm]
      · rw [if_neg same, ih]
        simp only [LastPlace.concat_of_passed fun both => same both.1]
    · have left : counts (final, names.length) = false :=
        Bool.eq_false_iff.mpr fun taken => counted ((agrees _ _).mp taken)
      simp only [List.zipIdx_singleton, Nat.zero_add, List.filter_cons, List.filter_nil, left,
        Bool.false_eq_true, ↓reduceIte, List.map_nil, List.append_nil, ih name value]
      have passed : ¬(name = final ∧ Counts name names.length) := by
        rintro ⟨rfl, taken⟩
        exact counted taken
      simp only [LastPlace.concat_of_passed passed]

/-- An `id` that has no parameter does not count. -/
theorem insertedFields_takes (names : List String) (params : List Value) :
    (insertedFields names params).Takes
      (fun name index => ¬(name = Record.keyField ∧ params.length ≤ index)) names params :=
  ofPlaces_takes (by simp [Decidable.imp_iff_not_or]) names params

theorem assign_takes (names : List String) (params : List Value) :
    (assign names params).Takes (fun _ _ => True) names params := by
  have takes := @ofPlaces_takes (fun _ _ => True) (fun _ => true) (by simp) names params
  rwa [List.filter_eq_self.mpr fun _ _ => rfl] at takes

end Payload

/-- A null parameter is no key, as if it had not been supplied. -/
theorem Key.ofValue_given? (kind : StatementKind) (value? : Option Value) :
    ofValue kind (Payload.given? value?) = ofValue kind value? := by
  cases value? with
  | none => rfl
  | some value => cases value <;> rfl

namespace Payload

/-- An UPDATE has a key if its clause is found, its parameters run past the assignments, and
the last of them is a key. -/
theorem ofUpdate_keyed_iff {sql : List Char} {params : List Value} {key : Key} :
    Key.ofValue .update (ofUpdate sql params).key? = .ok key ↔
      ∃ clause, updateClause? sql = some clause ∧
        (assignedFields clause.assignments).length < params.length ∧
        Key.ofValue .update params.getLast? = .ok key := by
  cases found : updateClause? sql with
  | none => simp [ofUpdate, found, Key.ofValue]
  | some clause =>
    by_cases keyed : (assignedFields clause.assignments).length < params.length
    · simp [ofUpdate, found, keyed, Key.ofValue_given?]
    · simp [ofUpdate, found, keyed, Key.ofValue]

theorem ofDelete_keyed_iff {sql : List Char} {params : List Value} {key : Key} :
    Key.ofValue .delete (ofDelete sql params) = .ok key ↔
      (∃ clause, deleteClause? sql = some clause) ∧
        Key.ofValue .delete params.head? = .ok key := by
  cases found : deleteClause? sql with
  | none => simp [ofDelete, found, Key.ofValue]
  | some clause => simp [ofDelete, found, Key.ofValue_given?]

theorem ofUpdate_updates {sql : List Char} {clause : UpdateClause}
    (found : updateClause? sql = some clause) (params : List Value) :
    (ofUpdate sql params).updates = assign (assignedFields clause.assignments) params := by
  rw [ofUpdate, found]

end Payload

end RecordSql
