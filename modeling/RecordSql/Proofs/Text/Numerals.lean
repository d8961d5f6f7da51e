import Mathlib.Data.Nat.Digits.Defs
import RecordSql.Proofs.Text.Digits

/-!
Written whole numbers: an optional sign and a run of digits, which stands for the sum of its
digits at their places. The reader takes exactly these.
-/

namespace RecordSql.Text

/-- At least one digit and nothing else. -/
structure AreDigits (digits : List Char) : Prop where
  nonempty : digits ≠ []
  digit : ∀ c ∈ digits, isDigit c = true

/-- The digits at their places, of which the last is the place of the ones. -/
def placeValue (digits : List Char) : ℕ := Nat.ofDigits 10 (digits.map digitValue).reverse

/-- The text is a whole number in decimal, with or without a sign. -/
inductive Numeral : List Char → ℤ → Prop
  | plain {digits : List Char} (run : AreDigits digits) : Numeral digits (placeValue digits)
  | plus {digits : List Char} (run : AreDigits digits) :
      Numeral ('+' :: digits) (placeValue digits)
  | minus {digits : List Char} (run : AreDigits digits) :
      Numeral ('-' :: digits) (-placeValue digits)

theorem naturalOf_eq_placeValue (digits : List Char) : naturalOf digits = placeValue digits := by
  induction digits using List.reverseRecOn with
  | nil => rfl
  | append_singleton front last ih =>
    rw [naturalOf_concat, ih, placeValue, placeValue, List.map_append, List.reverse_append,
      List.map_singleton, List.reverse_singleton, List.singleton_append, Nat.ofDigits_cons]
    exact Nat.add_comm _ _

theorem areDigits_iff {digits : List Char} :
    ¬(digits.isEmpty || !digits.all isDigit) = true ↔ AreDigits digits := by
  simp only [Bool.or_eq_true, List.isEmpty_iff, Bool.not_eq_true', not_or, Bool.not_eq_false,
    List.all_eq_true]
  exact ⟨fun ⟨nonempty, digit⟩ => ⟨nonempty, digit⟩, fun ⟨nonempty, digit⟩ => ⟨nonempty, digit⟩⟩

theorem magnitude_read_iff {digits : List Char} {value : ℤ} :
    (if (digits.isEmpty || !digits.all isDigit) = true then none
      else some (naturalOf digits)).bind (fun natural => some (natural : ℤ)) = some value ↔
      AreDigits digits ∧ (placeValue digits : ℤ) = value := by
  rw [Option.bind_eq_some_iff]
  simp only [Option.ite_none_left_eq_some, areDigits_iff, Option.some.injEq,
    naturalOf_eq_placeValue, and_assoc, exists_and_left, exists_eq_left']

theorem integer?_eq_some_iff {text : List Char} {number : ℤ} :
    integer? text = some number ↔ Numeral text number := by
  constructor
  · intro read
    unfold integer? at read
    split at read
    all_goals
      obtain ⟨value, digits, rfl⟩ := Option.map_eq_some_iff.mp read
      obtain ⟨run, rfl⟩ := magnitude_read_iff.mp digits
    · exact .minus run
    · exact .plus run
    · exact .plain run
  · intro numeral
    unfold integer?
    cases numeral with
    | minus run | plus run =>
      exact Option.map_eq_some_iff.mpr ⟨_, magnitude_read_iff.mpr ⟨run, rfl⟩, rfl⟩
    | plain run =>
      -- The first character is a digit, so it is no sign.
      split
      case h_1 => exact absurd (run.digit '-' List.mem_cons_self) (by decide)
      case h_2 => exact absurd (run.digit '+' List.mem_cons_self) (by decide)
      case h_3 => exact Option.map_eq_some_iff.mpr ⟨_, magnitude_read_iff.mpr ⟨run, rfl⟩, rfl⟩

end RecordSql.Text
