import RecordSql.Text.Blank
import RecordSql.Text.Pieces

/-!
Cutting a text and trimming what it was cut into. The pieces of a text that was
joined from pieces without the separator are these pieces, and trimming goes no
further than the first and the last character that is not blank.
-/

namespace RecordSql.Text

/-- What is put in front of a text without a cut becomes part of its first piece. -/
theorem pieces_front {separator : Char} {front text first : List Char}
    {others : List (List Char)} (free : separator ∉ front)
    (cut : pieces separator text = first :: others) :
    pieces separator (front ++ text) = (front ++ first) :: others := by
  induction front with
  | nil => exact cut
  | cons c front ih =>
    have differ : c ≠ separator := (List.ne_of_not_mem_cons free).symm
    have later := ih (List.not_mem_of_not_mem_cons free)
    simp only [List.cons_append, pieces, differ, ↓reduceIte, later]

theorem pieces_of_free {separator : Char} {text : List Char} (free : separator ∉ text) :
    pieces separator text = [text] := by
  have cut : pieces separator [] = [[]] := rfl
  simpa using pieces_front free cut

theorem pieces_append {separator : Char} {first : List Char} (free : separator ∉ first)
    (rest : List Char) :
    pieces separator (first ++ separator :: rest) = first :: pieces separator rest := by
  have cut : pieces separator (separator :: rest) = [] :: pieces separator rest := if_pos rfl
  simpa using pieces_front free cut

/-- The text between two pieces is cut after the separator. -/
theorem pieces_intercalate {separator : Char} {gap first : List Char}
    {others : List (List Char)} (gapFree : separator ∉ gap)
    (free : ∀ piece ∈ first :: others, separator ∉ piece) :
    pieces separator ((separator :: gap).intercalate (first :: others)) =
      first :: others.map (gap ++ ·) := by
  induction others generalizing first with
  | nil =>
    rw [List.intercalate_singleton]
    exact pieces_of_free (free first List.mem_cons_self)
  | cons second others ih =>
    have rest := @ih second fun piece held => free piece (List.mem_cons_of_mem _ held)
    rw [List.intercalate_cons_cons, List.append_assoc, List.cons_append,
      pieces_append (free first List.mem_cons_self), pieces_front gapFree rest]
    rfl

theorem pieces_eq_splitOn (separator : Char) (text : List Char) :
    pieces separator text = text.splitOn separator := by
  induction text with
  | nil => rfl
  | cons c rest ih =>
    rw [List.splitOn_cons_eq_if_modifyHead, ← ih, pieces]
    simp only [beq_iff_eq]
    split
    case isTrue => rfl
    case isFalse =>
      obtain ⟨first, others, cut⟩ := List.exists_cons_of_ne_nil (pieces_ne_nil separator rest)
      rw [cut, List.modifyHead_cons]

/-- Nothing is cut off the front of what starts with a character that is not blank. -/
theorem trimStart_append {front : List Char} (kept : trimStart front = front)
    (nonempty : front ≠ []) (back : List Char) :
    trimStart (front ++ back) = front ++ back := by
  simp only [trimStart] at kept ⊢
  rw [List.dropWhile_append, kept]
  simp [nonempty]

theorem trimEnd_append_solid {c : Char} (solid : isBlank c = false) (front back : List Char) :
    trimEnd (front ++ c :: back) = front ++ c :: trimEnd back := by
  simp only [trimEnd, trimStart, List.reverse_append, List.reverse_cons, List.append_assoc,
    List.dropWhile_append, List.dropWhile_cons, solid, Bool.false_eq_true, ↓reduceIte,
    List.singleton_append]
  split
  · next gone => simp [List.isEmpty_iff.mp gone]
  · simp

theorem trim_append_solid {front : List Char} (kept : trimStart front = front)
    (nonempty : front ≠ []) {c : Char} (solid : isBlank c = false) (back : List Char) :
    trim (front ++ c :: back) = front ++ c :: trimEnd back := by
  rw [trim, trimStart_append kept nonempty, trimEnd_append_solid solid]

theorem trimEnd_append_blank {c : Char} (blank : isBlank c = true) (front : List Char) :
    trimEnd (front ++ [c]) = trimEnd front := by
  simp only [trimEnd, List.reverse_append, List.reverse_singleton, List.singleton_append,
    trimStart_cons_of_blank blank]

theorem trim_cons_of_blank {c : Char} (blank : isBlank c = true) (text : List Char) :
    trim (c :: text) = trim text :=
  congrArg trimEnd (trimStart_cons_of_blank blank)

theorem trimEnd_length_le (text : List Char) : (trimEnd text).length ≤ text.length := by
  simpa [trimEnd, trimStart] using (List.dropWhile_sublist isBlank (l := text.reverse)).length_le

theorem trimStart_of_trim {text : List Char} (trimmed : trim text = text) :
    trimStart text = text := by
  have suffix : trimStart text <:+ text := List.dropWhile_suffix isBlank
  have shorter := trimEnd_length_le (trimStart text)
  rw [show trimEnd (trimStart text) = text from trimmed] at shorter
  exact suffix.eq_of_length_le shorter

theorem trim_append_blank {c : Char} (blank : isBlank c = true) {text : List Char}
    (trimmed : trim text = text) (nonempty : text ≠ []) : trim (text ++ [c]) = text := by
  have start := trimStart_of_trim trimmed
  rw [trim, trimStart_append start nonempty, trimEnd_append_blank blank]
  simpa only [trim, start] using trimmed

end RecordSql.Text
