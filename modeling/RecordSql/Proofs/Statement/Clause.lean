import RecordSql.Proofs.Text.Blanks
import RecordSql.Statement.Clause

/-!
Reading clauses off a text that is known part by part. Each reader takes exactly
the part that it is meant for and leaves what follows.
-/

namespace RecordSql

namespace Text

/-- A word is dropped in whatever case it is written. -/
theorem dropWord?_append {word written : List Char} (same : written.map Char.toUpper = word)
    (rest : List Char) : dropWord? word (written ++ rest) = some rest := by
  subst same
  induction written with
  | nil => rfl
  | cons c written ih =>
    have fits : isCaseOf c.toUpper c = true := by simp [isCaseOf]
    simp only [List.map_cons, List.cons_append, dropWord?, fits, ↓reduceIte, ih]

theorem takeName_append {name rest : List Char} (named : ∀ c ∈ name, isNameChar c = true)
    (stops : rest.head?.all (!isNameChar ·) = true) :
    takeName (name ++ rest) = (name, rest) := by
  have taken : rest.takeWhile isNameChar = [] ∧ rest.dropWhile isNameChar = rest := by
    cases rest with
    | nil => exact ⟨rfl, rfl⟩
    | cons c rest =>
      have unnamed : isNameChar c = false := by simpa using stops
      simp [unnamed]
  rw [takeName, List.takeWhile_append_of_pos named, List.dropWhile_append_of_pos named,
    taken.1, taken.2, List.append_nil]

end Text

namespace Clause

open Text

theorem nonempty?_of_ne_nil {text : List Char} (nonempty : text ≠ []) :
    nonempty? text = some text :=
  if_neg (by simpa using nonempty)

theorem readName_append {name rest : List Char} (nonempty : name ≠ [])
    (named : ∀ c ∈ name, isNameChar c = true)
    (stops : rest.head?.all (!isNameChar ·) = true) :
    readName (name ++ rest) = some (name, rest) := by
  rw [readName, takeName_append named stops, nonempty?_of_ne_nil nonempty]
  rfl

theorem readInside_append {inside rest : List Char} (nonempty : inside ≠ [])
    (free : ')' ∉ inside) (closed : rest.head? = some ')') :
    readInside (inside ++ rest) = some (inside, rest) := by
  obtain ⟨later, rfl⟩ := List.head?_eq_some_iff.mp closed
  have before : ∀ c ∈ inside, (c != ')') = true := fun c held =>
    bne_iff_ne.mpr fun same => free (same ▸ held)
  rw [readInside, List.takeWhile_append_of_pos before, List.dropWhile_append_of_pos before]
  simp [nonempty?_of_ne_nil nonempty]

theorem readTable_append {name rest : List Char} {blank : Char} (isBlank : isBlank blank = true)
    (nonempty : name ≠ []) (named : ∀ c ∈ name, isNameChar c = true)
    (stops : rest.head?.all (!isNameChar ·) = true) :
    readTable (blank :: (name ++ rest)) = some name := by
  have start : trimStart (name ++ rest) = name ++ rest := by
    cases name with
    | nil => exact absurd rfl nonempty
    | cons c name =>
      exact trimStart_cons_of_not_blank (isBlank_of_isNameChar (named c List.mem_cons_self))
  simp only [readTable, isBlank, ↓reduceIte, start, takeName_append named stops]
  exact nonempty?_of_ne_nil nonempty

/-- The key condition at the end of a line is its last one, whatever the line holds
before it. -/
theorem beforeKey?_append {front : List Char} (line : '\n' ∉ front) :
    beforeKey? (front ++ " WHERE id = ?".toList) = some front := by
  induction front with
  | nil => rfl
  | cons c front ih =>
    have differ : c ≠ '\n' := (List.ne_of_not_mem_cons line).symm
    rw [List.cons_append, beforeKey?, if_neg differ, ih (List.not_mem_of_not_mem_cons line)]

theorem first?_of_start {Found : Type} {read : List Char → Option Found} {text : List Char}
    {found : Found} (here : read text = some found) : first? read text = some found := by
  cases text with
  | nil => exact here
  | cons c rest => simp only [first?, here]

theorem tableHere?_of_word {previous : Option Char} {word rest table : List Char}
    (starts : startsWord previous = true) (listed : word ∈ tableWords)
    (found : readTable rest = some table) :
    tableHere? previous (word ++ rest) = some table := by
  rw [tableHere?, if_pos starts]
  simp only [tableWords, List.mem_cons, List.not_mem_nil, or_false] at listed
  rcases listed with rfl | rfl | rfl
  all_goals simp [tableWords, dropWord?, isCaseOf, found]

theorem tableFrom?_of_word {previous : Option Char} {word rest table : List Char}
    (starts : startsWord previous = true) (listed : word ∈ tableWords)
    (found : readTable rest = some table) :
    tableFrom? previous (word ++ rest) = some table := by
  have here := tableHere?_of_word starts listed found
  cases whole : word ++ rest with
  | nil =>
    obtain ⟨rfl, rfl⟩ := List.append_eq_nil_iff.mp whole
    exact absurd listed (by decide)
  | cons c later =>
    rw [whole] at here
    simp only [tableFrom?, here]

end Clause

end RecordSql
