/-!
Cutting a text at every occurrence of a separator. A text without the
separator is one piece; a text that ends in it has an empty last piece.
-/

namespace RecordSql.Text

def pieces (separator : Char) : List Char → List (List Char)
  | [] => [[]]
  | c :: rest =>
      if c = separator then [] :: pieces separator rest
      else
        match pieces separator rest with
        | [] => [[c]]
        | first :: others => (c :: first) :: others

theorem pieces_ne_nil (separator : Char) (text : List Char) :
    pieces separator text ≠ [] := by
  cases text with
  | nil => simp [pieces]
  | cons c rest =>
    simp only [pieces]
    split
    · simp
    · split <;> simp

end RecordSql.Text
