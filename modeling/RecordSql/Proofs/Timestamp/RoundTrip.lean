import RecordSql.Proofs.Text.Digits
import RecordSql.Timestamp.Reader

/-!
Reading back what was written. Each part of the reader is given what the writer
puts at the front of a text, takes exactly this and leaves the rest; so a stored
time is read as the calendar fields and the seconds that were written. A leap
second is written as the next second, and only the sixtieth is told apart from
an ordinary one.
-/

namespace RecordSql.Timestamp

/-- As many digits as are allowed, or all there are. -/
theorem readDigits_append {most : Nat} {digits : List Char} (rest : List Char)
    (all : ∀ c ∈ digits, Text.isDigit c = true) (nonempty : digits ≠ [])
    (fits : digits.length ≤ most)
    (stops : digits.length = most ∨ ∀ next ∈ rest.head?, Text.isDigit next = false) :
    readDigits most (digits ++ rest) = some (digits, rest) := by
  have later : (rest.take (most - digits.length)).takeWhile Text.isDigit = [] := by
    rcases stops with full | boundary
    · rw [full, Nat.sub_self, List.take_zero, List.takeWhile_nil]
    · cases rest with
      | nil => rw [List.take_nil, List.takeWhile_nil]
      | cons next others =>
        have other : Text.isDigit next = false := boundary next rfl
        cases most - digits.length with
        | zero => rfl
        | succ room => simp only [List.take_succ_cons, List.takeWhile_cons, other,
            Bool.false_eq_true, ↓reduceIte]
  have taken : ((digits ++ rest).take most).takeWhile Text.isDigit = digits := by
    rw [List.take_append, List.take_of_length_le fits, List.takeWhile_append_of_pos all, later,
      List.append_nil]
  simp only [readDigits, taken, List.isEmpty_iff, nonempty, ↓reduceIte, List.drop_left]

theorem readPart_padded {number : Nat} (fits : number < 100) (rest : List Char) :
    readPart ((Text.padded 2 number).toList ++ rest) = some (number, rest) := by
  have width : (Text.padded 2 number).toList.length = 2 := Text.padded_length (by decide) fits
  have digits := readDigits_append rest (fun c member => Text.isDigit_of_mem_padded member)
    (Text.padded_ne_nil 2 number) (Nat.le_of_eq width) (.inl width)
  simp only [readPart, Text.trimStart_padded, digits, Option.map_some, Text.naturalOf_padded]

theorem readMark_cons {mark : Char} (solid : Text.isBlank mark = false) (rest : List Char) :
    readMark mark (mark :: rest) = some rest := by
  simp only [readMark, Text.trimStart_cons_of_not_blank solid, ↓reduceIte]

/-- A year that starts with a digit has no sign. -/
theorem readYear_of_digit {first : Char} {others : List Char}
    (digit : Text.isDigit first = true) :
    readYear (first :: others) =
      (readDigits 4 (first :: others)).map fun (digits, rest) =>
        ((Text.naturalOf digits : Int), rest) := by
  have solid := Text.isBlank_of_isDigit digit
  rw [readYear, Text.trimStart_cons_of_not_blank solid]
  split
  case h_1 text same =>
    cases same
    exact absurd digit (by decide)
  case h_2 text same =>
    cases same
    exact absurd digit (by decide)
  case h_3 => rfl

theorem readYear_yearText (year : Int) (rest : List Char) :
    readYear ((yearText year).toList ++ '-' :: rest) = some (year, '-' :: rest) := by
  have all : ∀ c ∈ (Text.padded 4 year.natAbs).toList, Text.isDigit c = true :=
    fun c member => Text.isDigit_of_mem_padded member
  have nonempty := Text.padded_ne_nil 4 year.natAbs
  by_cases plain : 0 ≤ year ∧ year ≤ 9999
  case pos =>
    have short : year.natAbs < 10000 := by omega
    have width : (Text.padded 4 year.natAbs).toList.length = 4 :=
      Text.padded_length (by decide) short
    have digits := readDigits_append ('-' :: rest) all nonempty (Nat.le_of_eq width) (.inl width)
    obtain ⟨first, others, same⟩ := List.exists_cons_of_ne_nil nonempty
    have digit : Text.isDigit first = true := all first (same ▸ List.mem_cons_self)
    have value : (year.natAbs : Int) = year := by omega
    rw [yearText, if_pos plain]
    rw [same] at digits ⊢
    rw [List.cons_append, readYear_of_digit digit, ← List.cons_append, digits, ← same]
    simp only [Option.map_some, Text.naturalOf_padded, value]
  case neg =>
    -- Behind a sign the digits end at the mark that follows the year.
    have digits : ∀ most, (Text.padded 4 year.natAbs).toList.length ≤ most →
        readDigits most ((Text.padded 4 year.natAbs).toList ++ '-' :: rest) =
          some ((Text.padded 4 year.natAbs).toList, '-' :: rest) :=
      fun most fits => readDigits_append ('-' :: rest) all nonempty fits
        (.inr fun next first => by cases first; rfl)
    have room : ∀ text : List Char, text.length ≤ (text ++ '-' :: rest).length := by simp
    rw [yearText, if_neg plain]
    by_cases negative : year < 0
    case pos =>
      have value : -(year.natAbs : Int) = year := by omega
      simp only [negative, ↓reduceIte, String.toList_append, String.reduceToList, readYear,
        List.cons_append, List.nil_append,
        Text.trimStart_cons_of_not_blank (show Text.isBlank '-' = false by decide),
        digits _ (room _), Option.map_some, Text.naturalOf_padded, value]
    case neg =>
      have value : (year.natAbs : Int) = year := by omega
      simp only [negative, ↓reduceIte, String.toList_append, String.reduceToList, readYear,
        List.cons_append, List.nil_append,
        Text.trimStart_cons_of_not_blank (show Text.isBlank '+' = false by decide),
        digits _ (room _), Option.map_some, Text.naturalOf_padded, value]

/-- Nine digits at most, scaled to nanoseconds. -/
theorem readFraction_padded {width number : Nat} (positive : 0 < width) (narrow : width ≤ 9)
    (fits : number < tenTo width) :
    readFraction ("." ++ Text.padded width number).toList =
      some (number * tenTo (9 - width), []) := by
  have length : (Text.padded width number).toList.length = width :=
    Text.padded_length positive fits
  have digits : readDigits 9 ((Text.padded width number).toList ++ []) = some (_, []) :=
    readDigits_append [] (fun c member => Text.isDigit_of_mem_padded member)
      (Text.padded_ne_nil width number) (by omega) (.inr fun next first => by cases first)
  rw [List.append_nil] at digits
  simp only [String.toList_append, String.reduceToList, List.cons_append, List.nil_append,
    readFraction, digits, Option.map_some, Text.naturalOf_padded, length, List.dropWhile_nil]

theorem readFraction_fractionText {nanosecond : Nat} (fits : nanosecond < 1000000000) :
    readFraction (fractionText nanosecond).toList = some (nanosecond, []) := by
  rw [fractionText]
  split
  case isTrue whole =>
    rw [whole]
    rfl
  case isFalse =>
    split
    case isTrue milli =>
      have fits : nanosecond / 1000000 < 1000 := by omega
      rw [readFraction_padded (by decide) (by decide) fits]
      have value : nanosecond / 1000000 * 1000000 = nanosecond := by omega
      exact congrArg (fun number => some (number, [])) value
    case isFalse =>
      split
      case isTrue micro =>
        have fits : nanosecond / 1000 < 1000000 := by omega
        rw [readFraction_padded (by decide) (by decide) fits]
        have value : nanosecond / 1000 * 1000 = nanosecond := by omega
        exact congrArg (fun number => some (number, [])) value
      case isFalse =>
        rw [readFraction_padded (by decide) (by decide) fits]
        exact congrArg (fun number => some (number, [])) (Nat.mul_one nanosecond)

theorem of?_eq_some_iff {year : Int} {month day hour minute second nanosecond : Nat}
    {time : Timestamp} :
    of? year month day hour minute second nanosecond = some time ↔
      time.year = year ∧ time.month = month ∧ time.day = day ∧ time.hour = hour ∧
        time.minute = minute ∧ time.second = second ∧ time.nanosecond = nanosecond := by
  constructor
  case mp =>
    intro made
    simp only [of?] at made
    split at made
    · split at made
      · cases made
        exact ⟨rfl, rfl, rfl, rfl, rfl, rfl, rfl⟩
      · cases made
    · cases made
  case mpr =>
    rintro ⟨rfl, rfl, rfl, rfl, rfl, rfl, rfl⟩
    simp only [of?, time.onCalendar, time.inDay, and_self, ↓reduceDIte]

/-- Of a stored time the reader finds what was written, whatever the year and
however fine the fraction. -/
theorem read?_stored (time : Timestamp) :
    read? time.stored =
      if time.second + time.nanosecond / 1000000000 = 60 then
        of? time.year time.month time.day time.hour time.minute 59
          (time.nanosecond % 1000000000 + 1000000000)
      else
        of? time.year time.month time.day time.hour time.minute
          (time.second + time.nanosecond / 1000000000) (time.nanosecond % 1000000000) := by
  obtain ⟨hours, minutes, seconds, nanoseconds⟩ := time.inDay
  have month : time.month < 100 := by have := time.onCalendar.2.2.2.1; omega
  have day : time.day < 100 := by
    have bound := time.onCalendar.2.2.2.2.2
    have longest : Calendar.daysIn time.year time.month ≤ 31 := by
      simp only [Calendar.daysIn]
      split
      · split <;> omega
      all_goals omega
    omega
  have hour : time.hour < 100 := by omega
  have minute : time.minute < 100 := by omega
  have second : time.second + time.nanosecond / 1000000000 < 100 := by omega
  have fraction : time.nanosecond % 1000000000 < 1000000000 := Nat.mod_lt _ (by decide)
  have laid : time.stored.toList =
      (yearText time.year).toList ++ '-' :: ((Text.padded 2 time.month).toList ++ '-' ::
        ((Text.padded 2 time.day).toList ++ 'T' :: ((Text.padded 2 time.hour).toList ++ ':' ::
          ((Text.padded 2 time.minute).toList ++ ':' ::
            ((Text.padded 2 (time.second + time.nanosecond / 1000000000)).toList ++
              (fractionText (time.nanosecond % 1000000000)).toList))))) := by
    simp only [stored, write, String.toList_append, String.reduceToList, List.append_assoc,
      List.cons_append, List.nil_append]
  have hyphen (text : List Char) : readMark '-' ('-' :: text) = some text :=
    readMark_cons (by decide) text
  have letter (text : List Char) : readMark 'T' ('T' :: text) = some text :=
    readMark_cons (by decide) text
  have colon (text : List Char) : readMark ':' (':' :: text) = some text :=
    readMark_cons (by decide) text
  simp only [read?, laid, Option.bind_eq_bind, Option.bind_some, readYear_yearText, hyphen, letter,
    colon, readPart_padded month, readPart_padded day, readPart_padded hour,
    readPart_padded minute, readPart_padded second, readFraction_fractionText fraction,
    Text.trimStart, List.dropWhile_nil, ↓reduceIte]

/-- A time that can be told from its stored form. A leap second is, where it
stands on the last second of a minute. -/
def Legible (time : Timestamp) : Prop := time.nanosecond < 1000000000 ∨ time.second = 59

theorem read?_stored_iff (time : Timestamp) : read? time.stored = some time ↔ time.Legible := by
  obtain ⟨-, -, seconds, nanoseconds⟩ := time.inDay
  rw [read?_stored, Legible]
  constructor
  case mp =>
    intro again
    split at again
    case isTrue last => omega
    case isFalse =>
      have same := (of?_eq_some_iff.mp again).2.2.2.2.2
      omega
  case mpr =>
    intro legible
    split
    case isTrue last =>
      exact of?_eq_some_iff.mpr ⟨rfl, rfl, rfl, rfl, rfl, by omega, by omega⟩
    case isFalse =>
      exact of?_eq_some_iff.mpr ⟨rfl, rfl, rfl, rfl, rfl, by omega, by omega⟩

theorem readDigits_spec {most : Nat} {text digits rest : List Char}
    (found : readDigits most text = some (digits, rest)) :
    (∀ c ∈ digits, Text.isDigit c = true) ∧ digits.length ≤ most := by
  simp only [readDigits] at found
  split at found
  case isTrue => cases found
  case isFalse =>
    cases found
    constructor
    case left =>
      intro c member
      exact List.all_eq_true.mp List.all_takeWhile c member
    case right =>
      have shorter := (List.takeWhile_sublist Text.isDigit (l := text.take most)).length_le
      have front := List.length_take_le most text
      omega

theorem readFraction_lt {text rest : List Char} {nanosecond : Nat}
    (found : readFraction text = some (nanosecond, rest)) : nanosecond < 1000000000 := by
  simp only [readFraction] at found
  split at found
  case h_1 =>
    obtain ⟨⟨digits, after⟩, read, same⟩ := Option.map_eq_some_iff.mp found
    obtain ⟨all, few⟩ := readDigits_spec read
    cases same
    -- The missing places count as zeros, so there are nine places in all.
    calc Text.naturalOf digits * tenTo (9 - digits.length)
        < tenTo digits.length * tenTo (9 - digits.length) :=
          Nat.mul_lt_mul_of_pos_right (Text.naturalOf_lt all) (tenTo_pos _)
      _ = tenTo (digits.length + (9 - digits.length)) := (tenTo_add _ _).symm
      _ = tenTo 9 := congrArg tenTo (Nat.add_sub_cancel' few)
      _ = 1000000000 := rfl
  case h_2 =>
    cases found
    decide

/-- What is read can be told again once it is stored. -/
theorem read?_legible {text : String} {time : Timestamp} (found : read? text = some time) :
    time.Legible := by
  -- The time is made in the last step; of what was read before only the fraction matters.
  simp only [read?, Option.bind_eq_bind, Option.bind_eq_some_iff] at found
  obtain ⟨_, -, _, -, _, -, _, -, _, -, _, -, _, -, _, -, _, -, _, -, _, -, ⟨nanosecond, rest⟩,
    fraction, made⟩ := found
  have fine := readFraction_lt fraction
  split at made
  case isFalse => cases made
  case isTrue =>
    split at made
    case isTrue => exact .inr (of?_eq_some_iff.mp made).2.2.2.2.2.1
    case isFalse =>
      have same := (of?_eq_some_iff.mp made).2.2.2.2.2.2
      exact .inl (by omega)

end RecordSql.Timestamp
