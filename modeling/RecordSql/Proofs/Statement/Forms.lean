import Mathlib.Data.List.Forall2
import RecordSql.Proofs.Statement.Clause
import RecordSql.Proofs.Text.Blanks

/-!
What stands at the front of a text where a clause is read. The forms are stated part by part
and do not say how they are found; each reader is exact for its form. Only an UPDATE can be
taken for several clauses at one place, one for each key condition of the line, and then the
one with the longest assignments is read.
-/

namespace RecordSql

namespace Text

/-- Letter by letter, each in any case form. -/
def Spells (word written : List Char) : Prop :=
  List.Forall₂ (fun capital c => isCaseOf capital c = true) word written

theorem dropWord?_eq_some_iff {word text rest : List Char} :
    dropWord? word text = some rest ↔ ∃ written, Spells word written ∧ text = written ++ rest := by
  induction word generalizing text with
  | nil => simp [dropWord?, Spells]
  | cons capital word ih =>
    simp only [Spells, List.forall₂_cons_left_iff] at ih ⊢
    cases text with
    | nil => simp [dropWord?]
    | cons c text =>
      by_cases fits : isCaseOf capital c = true
      · simp only [dropWord?, fits, ↓reduceIte, ih]
        constructor
        · rintro ⟨written, spelled, rfl⟩
          exact ⟨c :: written, ⟨c, written, fits, spelled, rfl⟩, rfl⟩
        · rintro ⟨_, ⟨_, written, _, spelled, rfl⟩, whole⟩
          obtain ⟨-, rfl⟩ := List.cons.inj whole
          exact ⟨written, spelled, rfl⟩
      · simp only [dropWord?, fits, Bool.false_eq_true, ↓reduceIte, reduceCtorEq, false_iff]
        rintro ⟨_, ⟨_, written, same, _, rfl⟩, whole⟩
        obtain ⟨rfl, -⟩ := List.cons.inj whole
        exact fits same

theorem Spells.dropped {word written : List Char} (spelled : Spells word written)
    (rest : List Char) : dropWord? word (written ++ rest) = some rest :=
  dropWord?_eq_some_iff.mpr ⟨written, spelled, rfl⟩

theorem spells_of_upper {word : List Char} (written : List Char)
    (same : written.map Char.toUpper = word) : Spells word written := by
  obtain ⟨spelling, spelled, whole⟩ := dropWord?_eq_some_iff.mp (dropWord?_append same [])
  rwa [List.append_cancel_right whole]

theorem Spells.append_left {first second written : List Char}
    (spelled : Spells (first ++ second) written) :
    ∃ front back, Spells first front ∧ Spells second back ∧ written = front ++ back := by
  induction first generalizing written with
  | nil => exact ⟨[], written, .nil, spelled, rfl⟩
  | cons capital first ih =>
    obtain ⟨c, rest, fits, later, rfl⟩ := List.forall₂_cons_left_iff.mp spelled
    obtain ⟨front, back, before, after, rfl⟩ := ih later
    exact ⟨c :: front, back, .cons fits before, after, rfl⟩

theorem isCaseOf_plain {capital : Char} (notS : capital ≠ 'S') (notK : capital ≠ 'K')
    (c : Char) : isCaseOf capital c = true ↔ c.toUpper = capital := by
  simp [isCaseOf, notS, notK]

/-- A character before the letters has no other case form. -/
theorem isCaseOf_symbol {symbol c : Char} (low : symbol.toNat < 65) :
    isCaseOf symbol c = true ↔ c = symbol := by
  have notS : symbol ≠ 'S' := fun same => absurd (same ▸ low) (by decide)
  have notK : symbol ≠ 'K' := fun same => absurd (same ▸ low) (by decide)
  rw [isCaseOf_plain notS notK]
  delta Char.toUpper
  split
  case isFalse => rfl
  case isTrue lower =>
    -- Both sides fail: the capital of a small letter is a letter, and so is the small one.
    obtain ⟨first, last⟩ := lower
    rw [UInt32.le_iff_toNat_le] at first last
    have start : 'a'.val.toNat = 97 := rfl
    have stop : 'z'.val.toNat = 122 := rfl
    have shift : ('A'.val - 'a'.val).toNat = 4294967264 := rfl
    constructor
    · rintro rfl
      simp only [Char.toNat, UInt32.toNat_add] at low
      omega
    · rintro rfl
      simp only [Char.toNat] at low
      omega

theorem Spells.symbol {symbol : Char} {word written : List Char}
    (spelled : Spells (symbol :: word) written) (low : symbol.toNat < 65) :
    ∃ later, Spells word later ∧ written = symbol :: later := by
  obtain ⟨c, later, fits, rest, rfl⟩ := List.forall₂_cons_left_iff.mp spelled
  obtain rfl := (isCaseOf_symbol low).mp fits
  exact ⟨later, rest, rfl⟩

theorem Spells.single {symbol : Char} {written : List Char} (spelled : Spells [symbol] written)
    (low : symbol.toNat < 65) : written = [symbol] := by
  obtain ⟨later, none, rfl⟩ := spelled.symbol low
  rw [List.forall₂_nil_left_iff.mp none]

end Text

open Text

namespace Clause

/-- The name of a table. -/
structure Named (name : List Char) : Prop where
  nonempty : name ≠ []
  named : ∀ c ∈ name, isNameChar c = true

/-- What a pair of brackets can hold. -/
structure Enclosed (inside : List Char) : Prop where
  nonempty : inside ≠ []
  unclosed : ')' ∉ inside

/-- A text up to a key condition on its first line. -/
def Keyed (front text : List Char) : Prop :=
  '\n' ∉ front ∧ ∃ key rest, Spells keyWords key ∧ text = front ++ (key ++ rest)

theorem nonempty?_eq_some_iff {text found : List Char} :
    nonempty? text = some found ↔ text ≠ [] ∧ text = found := by
  simp only [nonempty?, List.isEmpty_iff]
  split <;> simp [*]

theorem readName_parts {text name rest : List Char} (read : readName text = some (name, rest)) :
    Named name ∧ text = name ++ rest ∧ rest.head?.all (!isNameChar ·) = true := by
  obtain ⟨taken, found, parts⟩ := Option.map_eq_some_iff.mp read
  obtain ⟨nonempty, rfl⟩ := nonempty?_eq_some_iff.mp found
  obtain ⟨rfl, rfl⟩ := Prod.mk.inj parts
  exact ⟨⟨nonempty, fun c => List.mem_takeWhile_imp⟩, List.takeWhile_append_dropWhile.symm,
    head?_dropWhile_all isNameChar text⟩

theorem readInside_parts {text inside rest : List Char}
    (read : readInside text = some (inside, rest)) :
    Enclosed inside ∧ text = inside ++ rest := by
  obtain ⟨taken, found, parts⟩ := Option.map_eq_some_iff.mp read
  obtain ⟨nonempty, rfl⟩ := nonempty?_eq_some_iff.mp found
  obtain ⟨rfl, rfl⟩ := Prod.mk.inj parts
  refine ⟨⟨nonempty, fun closed => ?_⟩, List.takeWhile_append_dropWhile.symm⟩
  exact absurd (List.mem_takeWhile_imp closed) (by decide)

theorem keyed_cons_iff {c other : Char} {front rest : List Char} :
    Keyed (other :: front) (c :: rest) ↔ other = c ∧ c ≠ '\n' ∧ Keyed front rest := by
  simp only [Keyed, List.mem_cons, not_or, List.cons_append, List.cons.injEq]
  constructor
  · rintro ⟨⟨sameLine, free⟩, key, later, spelled, rfl, rfl⟩
    exact ⟨rfl, Ne.symm sameLine, free, key, later, spelled, rfl⟩
  · rintro ⟨rfl, sameLine, free, key, later, spelled, rfl⟩
    exact ⟨⟨Ne.symm sameLine, free⟩, key, later, spelled, rfl, rfl⟩

theorem keyed_nil_iff {text : List Char} :
    Keyed [] text ↔ (dropWord? keyWords text).isSome = true := by
  simp only [Keyed, List.not_mem_nil, not_false_eq_true, true_and, List.nil_append,
    Option.isSome_iff_exists, dropWord?_eq_some_iff]
  exact exists_comm

theorem Keyed.ne_nil {front text : List Char} (keyed : Keyed front text) : text ≠ [] := by
  obtain ⟨-, key, rest, spelled, rfl⟩ := keyed
  obtain ⟨later, -, rfl⟩ := spelled.symbol (by decide)
  simp

theorem Keyed.isPrefix {front text : List Char} (keyed : Keyed front text) : front <+: text := by
  obtain ⟨-, key, rest, -, rfl⟩ := keyed
  exact List.prefix_append front _

theorem keyed_of_beforeKey? {text front : List Char} (read : beforeKey? text = some front) :
    Keyed front text := by
  induction text generalizing front with
  | nil => cases read
  | cons c rest ih =>
    rw [beforeKey?] at read
    split at read
    case h_1 taken later =>
      obtain rfl := Option.some.inj read
      obtain ⟨sameLine, later⟩ := Option.ite_none_left_eq_some.mp later
      exact keyed_cons_iff.mpr ⟨rfl, sameLine, ih later⟩
    case h_2 =>
      obtain ⟨here, same⟩ := Option.ite_none_right_eq_some.mp read
      obtain rfl := Option.some.inj same
      exact keyed_nil_iff.mpr here

/-- No key condition of the line is missed, and later ones go before earlier ones. -/
theorem Keyed.beforeKey? {text front : List Char} (keyed : Keyed front text) :
    ∃ longest, beforeKey? text = some longest ∧ front.length ≤ longest.length := by
  induction text generalizing front with
  | nil => exact absurd rfl keyed.ne_nil
  | cons c rest ih =>
    rw [Clause.beforeKey?]
    cases front with
    | nil =>
      split
      case h_1 taken later => exact ⟨c :: taken, rfl, Nat.zero_le _⟩
      case h_2 => exact ⟨[], if_pos (keyed_nil_iff.mp keyed), Nat.le_refl _⟩
    | cons first front =>
      obtain ⟨rfl, sameLine, later⟩ := keyed_cons_iff.mp keyed
      obtain ⟨longest, found, shorter⟩ := ih later
      rw [if_neg sameLine, found]
      exact ⟨first :: longest, rfl, Nat.succ_le_succ shorter⟩

theorem beforeKey?_eq_some_iff {text front : List Char} : beforeKey? text = some front ↔
    Keyed front text ∧ ∀ other, Keyed other text → other.length ≤ front.length := by
  constructor
  · intro read
    refine ⟨keyed_of_beforeKey? read, fun other keyed => ?_⟩
    obtain ⟨longest, found, shorter⟩ := keyed.beforeKey?
    obtain rfl := Option.some.inj (read.symm.trans found)
    exact shorter
  · rintro ⟨keyed, longest⟩
    obtain ⟨found, read, shorter⟩ := keyed.beforeKey?
    have within := longest found (keyed_of_beforeKey? read)
    have same : front = found :=
      (List.prefix_of_prefix_length_le keyed.isPrefix (keyed_of_beforeKey? read).isPrefix
        shorter).eq_of_length (Nat.le_antisymm shorter within)
    rw [read, same]

/-- What is found is written at the front of the text. -/
def Front {Found : Type} (Written : Found → List Char → Prop) (text : List Char)
    (found : Found) : Prop :=
  ∃ written, Written found written ∧ written <+: text

/-- Of all that is written at the front of the text, nothing is longer than what is found. -/
def Longest {Found : Type} (Written : Found → List Char → Prop) (size : Found → Nat)
    (text : List Char) (found : Found) : Prop :=
  Front Written text found ∧ ∀ other, Front Written text other → size other ≤ size found

end Clause

open Clause

inductive InsertClause.Written (clause : InsertClause) : List Char → Prop
  | parts {lead opening middle closing : List Char} (leads : Spells insertWords lead)
      (named : Named clause.table) (opens : Spells [' ', '('] opening)
      (columns : Enclosed clause.columns) (divides : Spells valuesWords middle)
      (values : Enclosed clause.values) (closes : Spells [')'] closing) :
      Written clause (lead ++ clause.table ++ opening ++ clause.columns ++ middle ++
        clause.values ++ closing)

inductive UpdateClause.Written (clause : UpdateClause) : List Char → Prop
  | parts {lead gap key : List Char} (leads : Spells updateWords lead)
      (named : Named clause.table) (sets : Spells setWords gap)
      (filled : clause.assignments ≠ []) (line : '\n' ∉ clause.assignments)
      (keyed : Spells keyWords key) :
      Written clause (lead ++ clause.table ++ gap ++ clause.assignments ++ key)

inductive DeleteClause.Written (clause : DeleteClause) : List Char → Prop
  | parts {lead key : List Char} (leads : Spells deleteWords lead) (named : Named clause.table)
      (keyed : Spells keyWords key) : Written clause (lead ++ clause.table ++ key)

/-- A table word, at least one blank and the name of the table. -/
inductive Clause.TableWritten (table : List Char) : List Char → Prop
  | parts {word lead blanks : List Char} (listed : word ∈ tableWords) (leads : Spells word lead)
      (apart : blanks ≠ []) (blank : ∀ c ∈ blanks, isBlank c = true) (named : Named table) :
      TableWritten table (lead ++ blanks ++ table)

namespace Clause

theorem Named.read {name word gap : List Char} (named : Named name)
    (spelled : Spells (' ' :: word) gap) (rest : List Char) :
    readName (name ++ (gap ++ rest)) = some (name, gap ++ rest) := by
  obtain ⟨later, -, rfl⟩ := spelled.symbol (by decide)
  exact readName_append named.nonempty named.named rfl

theorem Enclosed.read {inside symbols word : List Char} (enclosed : Enclosed inside)
    (spelled : Spells (')' :: word) symbols) (rest : List Char) :
    readInside (inside ++ (symbols ++ rest)) = some (inside, symbols ++ rest) := by
  obtain ⟨later, -, rfl⟩ := spelled.symbol (by decide)
  exact readInside_append enclosed.nonempty enclosed.unclosed rfl

theorem insertHere?_eq_some_iff {text : List Char} {clause : InsertClause} :
    insertHere? text = some clause ↔ Front InsertClause.Written text clause := by
  constructor
  · intro read
    obtain ⟨text₁, dropped, read⟩ := Option.bind_eq_some_iff.mp read
    obtain ⟨⟨table, text₂⟩, name, read⟩ := Option.bind_eq_some_iff.mp read
    obtain ⟨text₃, opened, read⟩ := Option.bind_eq_some_iff.mp read
    obtain ⟨⟨columns, text₄⟩, listed, read⟩ := Option.bind_eq_some_iff.mp read
    obtain ⟨text₅, divided, read⟩ := Option.bind_eq_some_iff.mp read
    obtain ⟨⟨values, text₆⟩, given, read⟩ := Option.bind_eq_some_iff.mp read
    obtain ⟨text₇, closed, read⟩ := Option.bind_eq_some_iff.mp read
    obtain rfl := Option.some.inj read
    obtain ⟨lead, leads, rfl⟩ := dropWord?_eq_some_iff.mp dropped
    obtain ⟨named, rfl, -⟩ := readName_parts name
    obtain ⟨opening, opens, rfl⟩ := dropWord?_eq_some_iff.mp opened
    obtain ⟨columnsEnclosed, rfl⟩ := readInside_parts listed
    obtain ⟨middle, divides, rfl⟩ := dropWord?_eq_some_iff.mp divided
    obtain ⟨valuesEnclosed, rfl⟩ := readInside_parts given
    obtain ⟨closing, closes, rfl⟩ := dropWord?_eq_some_iff.mp closed
    exact ⟨_, .parts leads named opens columnsEnclosed divides valuesEnclosed closes,
      text₇, by simp only [List.append_assoc]⟩
  · rintro ⟨_, ⟨leads, named, opens, columns, divides, values, closes⟩, rest, rfl⟩
    simp only [List.append_assoc]
    refine Option.bind_eq_some_iff.mpr ⟨_, leads.dropped _, ?_⟩
    refine Option.bind_eq_some_iff.mpr ⟨_, named.read opens _, ?_⟩
    refine Option.bind_eq_some_iff.mpr ⟨_, opens.dropped _, ?_⟩
    refine Option.bind_eq_some_iff.mpr ⟨_, columns.read divides _, ?_⟩
    refine Option.bind_eq_some_iff.mpr ⟨_, divides.dropped _, ?_⟩
    refine Option.bind_eq_some_iff.mpr ⟨_, values.read closes _, ?_⟩
    exact Option.bind_eq_some_iff.mpr ⟨_, closes.dropped _, rfl⟩

theorem deleteHere?_eq_some_iff {text : List Char} {clause : DeleteClause} :
    deleteHere? text = some clause ↔ Front DeleteClause.Written text clause := by
  constructor
  · intro read
    obtain ⟨text₁, dropped, read⟩ := Option.bind_eq_some_iff.mp read
    obtain ⟨⟨table, text₂⟩, name, read⟩ := Option.bind_eq_some_iff.mp read
    obtain ⟨text₃, conditioned, read⟩ := Option.bind_eq_some_iff.mp read
    obtain rfl := Option.some.inj read
    obtain ⟨lead, leads, rfl⟩ := dropWord?_eq_some_iff.mp dropped
    obtain ⟨named, rfl, -⟩ := readName_parts name
    obtain ⟨key, keyed, rfl⟩ := dropWord?_eq_some_iff.mp conditioned
    exact ⟨_, .parts leads named keyed, text₃, by simp only [List.append_assoc]⟩
  · rintro ⟨_, ⟨leads, named, keyed⟩, rest, rfl⟩
    simp only [List.append_assoc]
    refine Option.bind_eq_some_iff.mpr ⟨_, leads.dropped _, ?_⟩
    refine Option.bind_eq_some_iff.mpr ⟨_, named.read keyed _, ?_⟩
    exact Option.bind_eq_some_iff.mpr ⟨_, keyed.dropped _, rfl⟩

/-- Up to the assignments there is one way to read an UPDATE. -/
theorem updateFront_iff {text : List Char} {clause : UpdateClause} :
    Front UpdateClause.Written text clause ↔
      ∃ text₁ text₂ text₃, dropWord? updateWords text = some text₁ ∧
        readName text₁ = some (clause.table, text₂) ∧ dropWord? setWords text₂ = some text₃ ∧
        Keyed clause.assignments text₃ ∧ clause.assignments ≠ [] := by
  constructor
  · rintro ⟨_, ⟨leads, named, sets, filled, line, keyed⟩, rest, rfl⟩
    simp only [List.append_assoc]
    exact ⟨_, _, _, leads.dropped _, named.read sets _,
      sets.dropped _, ⟨line, _, rest, keyed, rfl⟩, filled⟩
  · rintro ⟨text₁, text₂, text₃, dropped, name, set, ⟨line, key, rest, keyed, rfl⟩, filled⟩
    obtain ⟨lead, leads, rfl⟩ := dropWord?_eq_some_iff.mp dropped
    obtain ⟨named, rfl, -⟩ := readName_parts name
    obtain ⟨gap, sets, rfl⟩ := dropWord?_eq_some_iff.mp set
    exact ⟨_, .parts leads named sets filled line keyed, rest,
      by simp only [List.append_assoc]⟩

theorem updateHere?_of_parts {text text₁ text₂ text₃ table front : List Char}
    (dropped : dropWord? updateWords text = some text₁)
    (name : readName text₁ = some (table, text₂)) (set : dropWord? setWords text₂ = some text₃)
    (before : beforeKey? text₃ = some front) (filled : front ≠ []) :
    updateHere? text = some ⟨table, front⟩ := by
  refine Option.bind_eq_some_iff.mpr ⟨_, dropped, ?_⟩
  refine Option.bind_eq_some_iff.mpr ⟨_, name, ?_⟩
  refine Option.bind_eq_some_iff.mpr ⟨_, set, ?_⟩
  refine Option.bind_eq_some_iff.mpr ⟨_, before, ?_⟩
  exact Option.bind_eq_some_iff.mpr ⟨_, nonempty?_of_ne_nil filled, rfl⟩

/-- Of the key conditions that the assignments can end at, the last one is taken. -/
theorem updateHere?_eq_some_iff {text : List Char} {clause : UpdateClause} :
    updateHere? text = some clause ↔
      Longest UpdateClause.Written (·.assignments.length) text clause := by
  constructor
  · intro read
    obtain ⟨text₁, dropped, read⟩ := Option.bind_eq_some_iff.mp read
    obtain ⟨⟨table, text₂⟩, name, read⟩ := Option.bind_eq_some_iff.mp read
    obtain ⟨text₃, set, read⟩ := Option.bind_eq_some_iff.mp read
    obtain ⟨front, before, read⟩ := Option.bind_eq_some_iff.mp read
    obtain ⟨assignments, some, read⟩ := Option.bind_eq_some_iff.mp read
    obtain rfl := Option.some.inj read
    obtain ⟨filled, rfl⟩ := nonempty?_eq_some_iff.mp some
    obtain ⟨keyed, longest⟩ := beforeKey?_eq_some_iff.mp before
    refine ⟨updateFront_iff.mpr ⟨_, _, _, dropped, name, set, keyed, filled⟩, ?_⟩
    -- The other clause is read with the same words and name, so only its assignments can differ.
    intro other written
    obtain ⟨other₁, other₂, other₃, otherDropped, otherName, otherSet, otherKeyed, -⟩ :=
      updateFront_iff.mp written
    obtain rfl := Option.some.inj (dropped.symm.trans otherDropped)
    obtain ⟨-, rfl⟩ := Prod.mk.inj (Option.some.inj (name.symm.trans otherName))
    obtain rfl := Option.some.inj (set.symm.trans otherSet)
    exact longest _ otherKeyed
  · rintro ⟨written, longest⟩
    obtain ⟨text₁, text₂, text₃, dropped, name, set, keyed, filled⟩ := updateFront_iff.mp written
    have before : beforeKey? text₃ = some clause.assignments := by
      refine beforeKey?_eq_some_iff.mpr ⟨keyed, fun front otherKeyed => ?_⟩
      by_cases empty : front = []
      · simp [empty]
      · exact longest ⟨clause.table, front⟩
          (updateFront_iff.mpr ⟨_, _, _, dropped, name, set, otherKeyed, empty⟩)
    exact updateHere?_of_parts dropped name set before filled

theorem updateHere?_of_front {text : List Char} {clause : UpdateClause}
    (written : Front UpdateClause.Written text clause) : ∃ read, updateHere? text = some read := by
  obtain ⟨text₁, text₂, text₃, dropped, name, set, keyed, filled⟩ := updateFront_iff.mp written
  obtain ⟨front, before, longer⟩ := keyed.beforeKey?
  have some : front ≠ [] := by
    rintro rfl
    exact filled (List.length_eq_zero_iff.mp (Nat.le_zero.mp longer))
  exact ⟨_, updateHere?_of_parts dropped name set before some⟩

section Here

variable {table : List Char} (name : Named table)
include name

theorem insertHere?_written {columns values : List Char} (listed : Enclosed columns)
    (given : Enclosed values) :
    insertHere? (insertWords ++ (table ++ ([' ', '('] ++ (columns ++
      (valuesWords ++ (values ++ [')'])))))) = some { table, columns, values } := by
  have form := @InsertClause.Written.parts ⟨table, columns, values⟩ _ _ _ _
    (spells_of_upper insertWords rfl) name (spells_of_upper [' ', '('] rfl) listed
    (spells_of_upper valuesWords rfl) given (spells_of_upper [')'] rfl)
  exact insertHere?_eq_some_iff.mpr ⟨_, form, [], by simp only [List.append_assoc, List.append_nil]⟩

theorem updateHere?_written {assignments : List Char} (listed : assignments ≠ [])
    (line : '\n' ∉ assignments) :
    updateHere? (updateWords ++ (table ++ (setWords ++
      (assignments ++ " WHERE id = ?".toList)))) = some { table, assignments } :=
  updateHere?_of_parts (dropWord?_append (by rfl) _) (name.read (spells_of_upper setWords rfl) _)
    (dropWord?_append (by rfl) _) (beforeKey?_append line) listed

theorem deleteHere?_written :
    deleteHere? (deleteWords ++ (table ++ " WHERE id = ?".toList)) = some { table } := by
  have form := @DeleteClause.Written.parts ⟨table⟩ _ _ (spells_of_upper deleteWords rfl) name
    (spells_of_upper " WHERE id =".toList rfl)
  exact deleteHere?_eq_some_iff.mpr ⟨_, form, " ?".toList, by simp only [List.append_assoc]; rfl⟩

end Here

theorem readTable_parts {text table : List Char} (read : readTable text = some table) :
    ∃ blanks rest, blanks ≠ [] ∧ (∀ c ∈ blanks, isBlank c = true) ∧ Named table ∧
      text = blanks ++ (table ++ rest) := by
  cases text with
  | nil => cases read
  | cons c text =>
    obtain ⟨blank, name⟩ := Option.ite_none_right_eq_some.mp read
    have named : readName (trimStart text) = some (table, (takeName (trimStart text)).2) := by
      rw [readName, name]
      rfl
    obtain ⟨isName, whole, -⟩ := readName_parts named
    refine ⟨c :: text.takeWhile isBlank, (takeName (trimStart text)).2, List.cons_ne_nil _ _,
      fun other held => ?_, isName, ?_⟩
    · rcases List.mem_cons.mp held with rfl | later
      · exact blank
      · exact List.mem_takeWhile_imp later
    · rw [← whole, List.cons_append]
      exact congrArg _ List.takeWhile_append_dropWhile.symm

/-- A name is read to its end. -/
theorem readTable_of_written {blanks table : List Char} (apart : blanks ≠ [])
    (blank : ∀ c ∈ blanks, isBlank c = true) (named : Named table) (rest : List Char) :
    ∃ found, readTable (blanks ++ (table ++ rest)) = some found ∧ table <+: found := by
  obtain ⟨c, blanks, rfl⟩ := List.exists_cons_of_ne_nil apart
  obtain ⟨first, later, rfl⟩ := List.exists_cons_of_ne_nil named.nonempty
  have solid := isBlank_of_isNameChar (named.named first List.mem_cons_self)
  have start : trimStart (blanks ++ (first :: later ++ rest)) = first :: later ++ rest :=
    (trimStart_blank_append (fun other held => blank other (List.mem_cons_of_mem _ held)) _).trans
      (trimStart_cons_of_not_blank solid)
  refine ⟨first :: later ++ rest.takeWhile isNameChar, ?_, List.prefix_append _ _⟩
  have isBlank := blank c List.mem_cons_self
  change readTable (c :: (blanks ++ (first :: later ++ rest))) = _
  simp only [readTable, isBlank, ↓reduceIte, start, takeName]
  rw [List.takeWhile_append_of_pos named.named]
  exact nonempty?_of_ne_nil (by simp)

theorem tableWord_head {word lead : List Char} (listed : word ∈ tableWords)
    (leads : Spells word lead) (text : List Char) :
    word.head? = (lead ++ text).head?.map Char.toUpper := by
  simp only [tableWords, List.mem_cons, List.not_mem_nil, or_false] at listed
  rcases listed with rfl | rfl | rfl
  all_goals
    obtain ⟨c, later, fits, -, rfl⟩ := List.forall₂_cons_left_iff.mp leads
    rw [isCaseOf_plain (by decide) (by decide)] at fits
    exact congrArg some fits.symm

/-- The table words begin with different letters. -/
theorem tableWords_apart {word other lead start text rest : List Char}
    (listed : word ∈ tableWords) (alsoListed : other ∈ tableWords) (leads : Spells word lead)
    (starts : Spells other start) (same : lead ++ text = start ++ rest) : word = other := by
  have apart : ∀ word ∈ tableWords, ∀ other ∈ tableWords,
      word.head? = other.head? → word = other := by decide
  refine apart word listed other alsoListed ?_
  rw [tableWord_head listed leads text, same, ← tableWord_head alsoListed starts rest]

theorem tableFront_of_read {word text table : List Char} (listed : word ∈ tableWords)
    (read : (dropWord? word text).bind readTable = some table) :
    Front TableWritten text table := by
  obtain ⟨text₁, dropped, name⟩ := Option.bind_eq_some_iff.mp read
  obtain ⟨lead, leads, rfl⟩ := dropWord?_eq_some_iff.mp dropped
  obtain ⟨blanks, rest, apart, blank, named, rfl⟩ := readTable_parts name
  exact ⟨_, .parts listed leads apart blank named, rest, by simp only [List.append_assoc]⟩

/-- Of the table words only one stands at the front, so the others change nothing. -/
theorem findTable_of_word {word text table : List Char} (listed : word ∈ tableWords)
    (here : (dropWord? word text).bind readTable = some table) :
    (tableWords.findSome? fun word => (dropWord? word text).bind readTable) = some table := by
  have some : (tableWords.findSome? fun word => (dropWord? word text).bind readTable).isSome :=
    List.findSome?_isSome_iff.mpr ⟨word, listed, Option.isSome_of_eq_some here⟩
  obtain ⟨first, found⟩ := Option.isSome_iff_exists.mp some
  obtain ⟨other, alsoListed, otherHere⟩ := List.exists_of_findSome?_eq_some found
  obtain ⟨text₁, dropped, -⟩ := Option.bind_eq_some_iff.mp here
  obtain ⟨text₂, otherDropped, -⟩ := Option.bind_eq_some_iff.mp otherHere
  obtain ⟨lead, leads, whole⟩ := dropWord?_eq_some_iff.mp dropped
  obtain ⟨start, starts, otherWhole⟩ := dropWord?_eq_some_iff.mp otherDropped
  obtain rfl := tableWords_apart listed alsoListed leads starts (whole.symm.trans otherWhole)
  exact found.trans (otherHere.symm.trans here)

theorem findTable_of_front {text table : List Char} (written : Front TableWritten text table) :
    ∃ found, (tableWords.findSome? fun word => (dropWord? word text).bind readTable) =
      some found ∧ table <+: found := by
  obtain ⟨_, ⟨listed, leads, apart, blank, named⟩, rest, rfl⟩ := written
  simp only [List.append_assoc]
  obtain ⟨found, read, longer⟩ := readTable_of_written apart blank named rest
  exact ⟨found, findTable_of_word listed
    (Option.bind_eq_some_iff.mpr ⟨_, leads.dropped _, read⟩), longer⟩

theorem tableHere?_eq_some_iff {previous : Option Char} {text table : List Char} :
    tableHere? previous text = some table ↔
      startsWord previous = true ∧ Longest TableWritten List.length text table := by
  rw [tableHere?, Option.ite_none_right_eq_some]
  refine and_congr_right fun _ => ?_
  constructor
  · intro read
    obtain ⟨word, listed, here⟩ := List.exists_of_findSome?_eq_some read
    refine ⟨tableFront_of_read listed here, fun other written => ?_⟩
    obtain ⟨found, again, longer⟩ := findTable_of_front written
    obtain rfl := Option.some.inj (read.symm.trans again)
    exact longer.length_le
  · rintro ⟨written, longest⟩
    obtain ⟨found, read, longer⟩ := findTable_of_front written
    obtain ⟨word, listed, here⟩ := List.exists_of_findSome?_eq_some read
    have same := longer.eq_of_length_le (longest found (tableFront_of_read listed here))
    rw [read, same]

end Clause

end RecordSql
