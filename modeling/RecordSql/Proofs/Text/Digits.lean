import Mathlib.Data.List.Induction
import RecordSql.Power
import RecordSql.Text.Blank
import RecordSql.Text.Decimal

/-!
The decimal digits of a number. Padding puts zeros in front, which change
neither the number nor that all of its characters are digits; a number that fits
the width takes exactly the width.
-/

namespace RecordSql

theorem tenTo_add (first second : Nat) :
    tenTo (first + second) = tenTo first * tenTo second := Nat.pow_add 10 first second

namespace Text

theorem isDigit_iff (c : Char) : isDigit c = true ↔ 48 ≤ c.toNat ∧ c.toNat ≤ 57 := by
  simp only [isDigit, Bool.and_eq_true, decide_eq_true_eq, Char.le_def, UInt32.le_iff_toNat_le]
  rfl

/-- A digit is not trimmed away. -/
theorem isBlank_of_isDigit {c : Char} (digit : isDigit c = true) : isBlank c = false := by
  obtain ⟨low, high⟩ := (isDigit_iff c).mp digit
  -- The digits lie between the second run of blanks, which is the space, and the third.
  have afterTabs : ¬c.toNat < 0x9 ∧ ¬c.toNat < 0xE := by omega
  have afterSpace : ¬c.toNat < 0x20 ∧ ¬c.toNat < 0x21 := by omega
  have beforeRest : c.toNat < 0x85 := by omega
  simp only [isBlank, blankRuns, inRuns, afterTabs, afterSpace, beforeRest, ↓reduceIte]

theorem digitsOf_ne_nil (number : Nat) : digitsOf number ≠ [] := Nat.toDigits_ne_nil

theorem isDigit_of_mem_digitsOf {number : Nat} {c : Char} (member : c ∈ digitsOf number) :
    isDigit c = true := by
  have digit := Nat.isDigit_of_mem_toDigits (by decide) (by decide) member
  rw [Char.isDigit_iff_toNat] at digit
  exact (isDigit_iff c).mpr digit

theorem naturalOf_concat (front : List Char) (last : Char) :
    naturalOf (front ++ [last]) = 10 * naturalOf front + digitValue last := by
  simp only [naturalOf, Nat.ofDigitChars_append]
  rfl

/-- A run of digits stands for less than the power of ten with as many zeros. -/
theorem naturalOf_lt {digits : List Char} (all : ∀ c ∈ digits, isDigit c = true) :
    naturalOf digits < tenTo digits.length := by
  -- The digits are valued from the left, so the induction takes off the last one.
  induction digits using List.reverseRecOn with
  | nil => decide
  | append_singleton front last ih =>
    have before := ih fun c member => all c (List.mem_append_left _ member)
    obtain ⟨low, high⟩ := (isDigit_iff last).mp (all last (by simp))
    have unit : digitValue last = last.toNat - 48 := rfl
    have place : tenTo (front.length + 1) = tenTo front.length * 10 := rfl
    rw [naturalOf_concat, unit, List.length_append, List.length_singleton, place]
    omega

theorem padded_toList (width number : Nat) :
    (padded width number).toList =
      List.replicate (width - (digitsOf number).length) '0' ++ digitsOf number := by
  simp [padded]

theorem isDigit_of_mem_padded {width number : Nat} {c : Char}
    (member : c ∈ (padded width number).toList) : isDigit c = true := by
  rw [padded_toList] at member
  rcases List.mem_append.mp member with zero | digit
  · rw [List.eq_of_mem_replicate zero]
    rfl
  · exact isDigit_of_mem_digitsOf digit

theorem padded_ne_nil (width number : Nat) : (padded width number).toList ≠ [] := by
  rw [padded_toList]
  exact List.append_ne_nil_of_right_ne_nil _ (digitsOf_ne_nil number)

/-- Digits stand at the front, so trimming leaves the text alone. -/
theorem trimStart_padded (width number : Nat) (rest : List Char) :
    trimStart ((padded width number).toList ++ rest) = (padded width number).toList ++ rest := by
  obtain ⟨first, others, same⟩ := List.exists_cons_of_ne_nil (padded_ne_nil width number)
  have digit : isDigit first = true :=
    @isDigit_of_mem_padded width number first (same ▸ List.mem_cons_self)
  rw [same]
  exact trimStart_cons_of_not_blank (isBlank_of_isDigit digit)

/-- A number that fits takes exactly the width it is padded to. -/
theorem padded_length {width number : Nat} (positive : 0 < width) (fits : number < tenTo width) :
    (padded width number).toList.length = width := by
  have short : (digitsOf number).length ≤ width :=
    (Nat.length_toDigits_le_iff (by decide) positive).mpr fits
  rw [padded_toList, List.length_append, List.length_replicate]
  omega

@[simp]
theorem naturalOf_padded (width number : Nat) :
    naturalOf (padded width number).toList = number := by
  rw [padded_toList, naturalOf, Nat.ofDigitChars_append, Nat.ofDigitChars_replicate_zero,
    Nat.mul_zero]
  exact Nat.ofDigitChars_ten_toDigits

end Text

end RecordSql
