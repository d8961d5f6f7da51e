import Mathlib.Data.List.Find
import RecordSql.Proofs.Statement.Places
import RecordSql.Statement.Plan

/-!
Blanks around a statement play no part in planning it. No clause and no keyword begins with a
blank, and what is written of a clause ends in some other character, so that no reader sees the
blanks in front of or behind the statement.
-/

namespace RecordSql

open Clause Text

namespace Clause

/-- A reader that starts at no blank and does not see blanks behind what it reads. -/
structure IgnoresBlanks {Found : Type} (read : List Char → Option Found) : Prop where
  before : ∀ {c}, isBlank c = true → ∀ text, read (c :: text) = none
  behind : ∀ {back}, (∀ c ∈ back, isBlank c = true) → ∀ text, read (text ++ back) = read text

section Behind

variable {Found : Type} {Written : Found → List Char → Prop}

/-- What is written ends in a character that is not blank. -/
def EndsSolid (written : List Char) : Prop := ∃ c ∈ written.getLast?, isBlank c = false

theorem EndsSolid.prefix_append_iff {written back : List Char} (ends : EndsSolid written)
    (blank : ∀ c ∈ back, isBlank c = true) (text : List Char) :
    written <+: text ++ back ↔ written <+: text := by
  refine ⟨fun within => ?_, fun within => within.trans (List.prefix_append text back)⟩
  have whole := List.prefix_append text back
  rcases Nat.le_total written.length text.length with short | long
  · exact List.prefix_of_prefix_length_le within whole short
  -- Otherwise it ends with a part of the blanks, which can only be empty.
  · obtain ⟨rest, rfl⟩ := List.prefix_of_prefix_length_le whole within long
    have beyond : rest <+: back := (List.prefix_append_right_inj text).mp within
    obtain ⟨c, last, solid⟩ := ends
    cases final : rest.getLast? with
    | none =>
      have none := List.getLast?_eq_none_iff.mp final
      simp [none]
    | some other =>
      rw [List.getLast?_append, final, Option.some_or] at last
      obtain rfl := Option.some.inj last
      have held := blank other (beyond.subset (List.mem_of_getLast? final))
      exact absurd (held.symm.trans solid) nofun

variable (ends : ∀ found written, Written found written → EndsSolid written)
include ends

theorem front_append_iff {back : List Char} (blank : ∀ c ∈ back, isBlank c = true)
    (text : List Char) (found : Found) :
    Front Written (text ++ back) found ↔ Front Written text found :=
  exists_congr fun written => and_congr_right fun form =>
    (ends found written form).prefix_append_iff blank text

theorem longest_append_iff {back : List Char} (blank : ∀ c ∈ back, isBlank c = true)
    (size : Found → Nat) (text : List Char) (found : Found) :
    Longest Written size (text ++ back) found ↔ Longest Written size text found := by
  simp only [Longest, front_append_iff ends blank]

end Behind

end Clause

theorem Clause.endsSolid_symbol {word : List Char} {symbol : Char} {written : List Char}
    (spelled : Spells (word ++ [symbol]) written) (low : symbol.toNat < 65)
    (solid : isBlank symbol = false) (front : List Char) : EndsSolid (front ++ written) := by
  obtain ⟨start, last, -, ending, rfl⟩ := spelled.append_left
  rw [ending.single low]
  exact ⟨symbol, by simp, solid⟩

theorem InsertClause.Written.endsSolid {clause : InsertClause} {written : List Char}
    (form : clause.Written written) : EndsSolid written := by
  obtain ⟨-, -, -, -, -, -, closes⟩ := form
  exact @endsSolid_symbol [] ')' _ closes (by decide) rfl _

theorem UpdateClause.Written.endsSolid {clause : UpdateClause} {written : List Char}
    (form : clause.Written written) : EndsSolid written := by
  obtain ⟨-, -, -, -, -, keyed⟩ := form
  exact @endsSolid_symbol " WHERE ID ".toList '=' _ keyed (by decide) rfl _

theorem DeleteClause.Written.endsSolid {clause : DeleteClause} {written : List Char}
    (form : clause.Written written) : EndsSolid written := by
  obtain ⟨-, -, keyed⟩ := form
  exact @endsSolid_symbol " WHERE ID ".toList '=' _ keyed (by decide) rfl _

theorem Clause.TableWritten.endsSolid {table written : List Char}
    (form : TableWritten table written) : EndsSolid written := by
  obtain ⟨-, -, -, -, named⟩ := form
  cases final : table.getLast? with
  | none => exact absurd (List.getLast?_eq_none_iff.mp final) named.nonempty
  | some c =>
    have solid := isBlank_of_isNameChar (named.named c (List.mem_of_getLast? final))
    exact ⟨c, by simp [final], solid⟩

namespace Clause

theorem dropWord?_blank {word : List Char}
    (listed : word ∈ insertWords :: updateWords :: deleteWords :: tableWords) {c : Char}
    (blank : isBlank c = true) (text : List Char) : dropWord? word (c :: text) = none := by
  have differ : (insertWords :: updateWords :: deleteWords :: tableWords).all (fun word =>
      blanks.all fun c => word.head?.any (!isCaseOf · c)) = true := by decide
  have other := List.all_eq_true.mp (List.all_eq_true.mp differ word listed) c (mem_blanks blank)
  cases word with
  | nil => cases other
  | cons capital word =>
    have unfit : isCaseOf capital c = false := by simpa using other
    simp [dropWord?, unfit]

theorem ignoresBlanks_insertHere? : IgnoresBlanks insertHere? where
  before blank text := by
    rw [insertHere?, dropWord?_blank (by decide) blank]
    rfl
  behind blank text := Option.ext fun clause => by
    rw [insertHere?_eq_some_iff, insertHere?_eq_some_iff,
      front_append_iff (fun _ _ form => form.endsSolid) blank]

theorem ignoresBlanks_updateHere? : IgnoresBlanks updateHere? where
  before blank text := by
    rw [updateHere?, dropWord?_blank (by decide) blank]
    rfl
  behind blank text := Option.ext fun clause => by
    rw [updateHere?_eq_some_iff, updateHere?_eq_some_iff,
      longest_append_iff (fun _ _ form => form.endsSolid) blank]

theorem ignoresBlanks_deleteHere? : IgnoresBlanks deleteHere? where
  before blank text := by
    rw [deleteHere?, dropWord?_blank (by decide) blank]
    rfl
  behind blank text := Option.ext fun clause => by
    rw [deleteHere?_eq_some_iff, deleteHere?_eq_some_iff,
      front_append_iff (fun _ _ form => form.endsSolid) blank]

theorem ignoresBlanks_tableHere? (previous : Option Char) :
    IgnoresBlanks (tableHere? previous) where
  before {c} blank text := by
    have unread : (tableWords.findSome? fun word => (dropWord? word (c :: text)).bind readTable) =
        none := by
      refine List.findSome?_eq_none_iff.mpr fun word listed => ?_
      have later : word ∈ insertWords :: updateWords :: deleteWords :: tableWords :=
        List.mem_append_right [insertWords, updateWords, deleteWords] listed
      rw [dropWord?_blank later blank, Option.bind_none]
    rw [tableHere?, unread, ite_self]
  behind blank text := Option.ext fun table => by
    rw [tableHere?_eq_some_iff, tableHere?_eq_some_iff,
      longest_append_iff (fun _ _ form => form.endsSolid) blank]

theorem IgnoresBlanks.first?_cons {Found : Type} {read : List Char → Option Found}
    (ignores : IgnoresBlanks read) {c : Char} (blank : isBlank c = true) (text : List Char) :
    first? read (c :: text) = first? read text := by
  rw [first?, ignores.before blank]

theorem tableFrom?_congr {previous other : Option Char}
    (same : startsWord previous = startsWord other) (text : List Char) :
    tableFrom? previous text = tableFrom? other text := by
  cases text with
  | nil => rfl
  | cons c rest => rw [tableFrom?, tableFrom?, tableHere?, tableHere?, same]

/-- A word starts after a blank as it does at the start of a text. -/
theorem tableFrom?_blank {c : Char} (blank : isBlank c = true) (previous : Option Char)
    (text : List Char) : tableFrom? previous (c :: text) = tableFrom? none text := by
  have starts : startsWord (some c) = startsWord none := by
    simp [startsWord, isWordChar_of_blank blank]
  rw [tableFrom?, (ignoresBlanks_tableHere? previous).before blank]
  exact tableFrom?_congr starts text

section Surrounded

variable {front back : List Char} (before : ∀ c ∈ front, isBlank c = true)
  (after : ∀ c ∈ back, isBlank c = true)
include before after

theorem first?_surrounded {Found : Type} {read : List Char → Option Found}
    (ignores : IgnoresBlanks read) (text : List Char) :
    first? read (front ++ (text ++ back)) = first? read text := by
  -- Behind the text there are only blanks, at which nothing begins.
  have behind : first? read (text ++ back) = first? read text := by
    induction text with
    | cons c text ih =>
      rw [List.cons_append, first?, first?, ih, ← List.cons_append, ignores.behind after]
    | nil =>
      rw [List.nil_append]
      induction back with
      | nil => rfl
      | cons c back ih =>
        obtain ⟨blank, later⟩ := List.forall_mem_cons.mp after
        exact (ignores.first?_cons blank back).trans (ih later)
  rw [← behind]
  induction front with
  | nil => rfl
  | cons c front ih =>
    obtain ⟨blank, later⟩ := List.forall_mem_cons.mp before
    exact (ignores.first?_cons blank _).trans (ih later)

theorem tableName?_surrounded (text : List Char) :
    tableName? (front ++ (text ++ back)) = tableName? text := by
  have behind : ∀ previous, tableFrom? previous (text ++ back) = tableFrom? previous text := by
    induction text with
    | cons c text ih =>
      intro previous
      rw [List.cons_append, tableFrom?, tableFrom?, ih, ← List.cons_append,
        (ignoresBlanks_tableHere? previous).behind after]
    | nil =>
      rw [List.nil_append]
      induction back with
      | nil => exact fun _ => rfl
      | cons c back ih =>
        intro previous
        obtain ⟨blank, later⟩ := List.forall_mem_cons.mp after
        exact (tableFrom?_blank blank previous back).trans (ih later none)
  rw [tableName?, tableName?, ← behind none]
  induction front with
  | nil => rfl
  | cons c front ih =>
    obtain ⟨blank, later⟩ := List.forall_mem_cons.mp before
    exact (tableFrom?_blank blank none _).trans (ih later)

end Surrounded

end Clause

namespace StatementKind

/-- Blanks are no letters of a keyword. -/
theorem leads_append_blanks {kind : StatementKind} (listed : kind ∈ recognized)
    {back : List Char} (blank : ∀ c ∈ back, isBlank c = true) (text : List Char) :
    leads kind.keyword.toList (text ++ back) = leads kind.keyword.toList text := by
  have differ : recognized.all (fun kind => kind.keyword.toList.all fun capital =>
      blanks.all fun c => c.toUpper != capital) = true := by decide
  have letters : ∀ capital ∈ kind.keyword.toList, ∀ c ∈ blanks, c.toUpper ≠ capital := by
    simpa using List.all_eq_true.mp differ kind listed
  clear listed differ
  generalize kind.keyword.toList = word at letters ⊢
  induction word generalizing text with
  | nil => cases text <;> rfl
  | cons capital word ih =>
    obtain ⟨letter, later⟩ := List.forall_mem_cons.mp letters
    cases text with
    | cons c text => rw [List.cons_append, leads, leads, ih text later]
    | nil =>
      -- The next letter of the keyword would have to be a blank.
      cases back with
      | nil => rfl
      | cons c back =>
        have other := letter c (mem_blanks (blank c List.mem_cons_self))
        simp [leads, other]

theorem classify_surrounded {front back : List Char} (before : ∀ c ∈ front, isBlank c = true)
    (after : ∀ c ∈ back, isBlank c = true) (text : List Char) :
    classify (front ++ (text ++ back)) = classify text := by
  rw [classify, classify, trimStart_blank_append before]
  rcases trimStart_append_blanks after text with kept | ⟨gone, none⟩
  · rw [kept, List.find?_congr fun kind listed => leads_append_blanks listed after _]
  · rw [gone, none]

end StatementKind

/-- Statements that planning does not tell apart. -/
structure PlannedAlike (sql other : List Char) : Prop where
  kind : StatementKind.classify sql = StatementKind.classify other
  table : tableName? sql = tableName? other
  inserted : ∀ params, Payload.ofInsert sql params = Payload.ofInsert other params
  updated : ∀ params, Payload.ofUpdate sql params = Payload.ofUpdate other params
  deleted : ∀ params, Payload.ofDelete sql params = Payload.ofDelete other params
  planned : ∀ mode params, planOf mode sql params = planOf mode other params

theorem plannedAlike_surrounded {front back : List Char}
    (before : ∀ c ∈ front, isBlank c = true) (after : ∀ c ∈ back, isBlank c = true)
    (text : List Char) : PlannedAlike (front ++ (text ++ back)) text := by
  have kind := StatementKind.classify_surrounded before after text
  have table := tableName?_surrounded before after text
  have inserted : ∀ params, Payload.ofInsert (front ++ (text ++ back)) params =
      Payload.ofInsert text params := by
    intro params
    rw [Payload.ofInsert, insertClause?, first?_surrounded before after ignoresBlanks_insertHere?]
    rfl
  have updated : ∀ params, Payload.ofUpdate (front ++ (text ++ back)) params =
      Payload.ofUpdate text params := by
    intro params
    rw [Payload.ofUpdate, updateClause?, first?_surrounded before after ignoresBlanks_updateHere?]
    rfl
  have deleted : ∀ params, Payload.ofDelete (front ++ (text ++ back)) params =
      Payload.ofDelete text params := by
    intro params
    rw [Payload.ofDelete, deleteClause?, first?_surrounded before after ignoresBlanks_deleteHere?]
    rfl
  -- The texts of errors are trimmed.
  have shown := trim_surrounded before after text
  refine ⟨kind, table, inserted, updated, deleted, fun mode params => ?_⟩
  have collection : resolveCollection mode (front ++ (text ++ back)) =
      resolveCollection mode text := by
    cases mode with
    | fixed => rfl
    | perStatement => simp only [resolveCollection, table, shown]
  simp only [planOf, kind, collection, inserted, updated, deleted, shown]

/-- A statement is planned as it is without the blanks around it, errors and their texts
included. -/
theorem surrounding_blanks_change_nothing (sql : String) :
    Stripped sql.toList (trim sql.toList) ∧ PlannedAlike sql.toList (trim sql.toList) ∧
      ∀ mode params, plan mode sql params = plan mode (String.ofList (trim sql.toList)) params := by
  obtain ⟨front, back, before, after, whole⟩ := trim_split sql.toList
  have alike : PlannedAlike sql.toList (trim sql.toList) := by
    have surrounded := plannedAlike_surrounded before after (trim sql.toList)
    rwa [← whole] at surrounded
  refine ⟨trim_stripped sql.toList, alike, fun mode params => ?_⟩
  rw [plan, plan, String.toList_ofList, alike.planned]

end RecordSql
