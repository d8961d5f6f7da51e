import RecordSql.Proofs.Binary64.ExactValues
import RecordSql.Proofs.Text.Numerals
import RecordSql.Statement.Plan

/-!
Which values are keys. A value stands for a whole number as an integer, as a float without a
fraction or as a written numeral, and it is the key with that number. Beyond the range of keys
there are numerals and floats; the numerals are refused, but the floats are taken for the
nearest key.
-/

namespace RecordSql

/-- The whole number that a value stands for as a key. -/
inductive Value.Denotes : Value → ℤ → Prop
  | integer (number : Int64) : Denotes (.integer number) number.toInt
  | real {x : Binary64} {number : ℤ} (finite : x.isFinite = true)
      (exact : x.exactValue = number) : Denotes (.real x) number
  | text {content : String} {number : ℤ}
      (numeral : Text.Numeral (Text.trim content.toList) number) : Denotes (.text content) number

def Key.Holds (number : ℤ) : Prop :=
  Int64.minValue.toInt ≤ number ∧ number ≤ Int64.maxValue.toInt

/-- A float that is whole but no key. -/
def Value.Overflows (value : Value) (number : ℤ) : Prop :=
  (∃ x, value = .real x) ∧ value.Denotes number ∧ ¬Key.Holds number

/-- The end of the keys on a number's side. -/
def Key.limit (number : ℤ) : Key := if number < 0 then Int64.minValue else Int64.maxValue

theorem Key.holds_iff {number : ℤ} :
    Key.Holds number ↔ -2 ^ 63 ≤ number ∧ number < 2 ^ 63 := by
  have low : Int64.minValue.toInt = -2 ^ 63 := rfl
  have high : Int64.maxValue.toInt = 2 ^ 63 - 1 := rfl
  rw [Key.Holds]
  omega

theorem Key.holds_toInt (key : Key) : Key.Holds key.toInt :=
  Key.holds_iff.mpr ⟨Int64.le_toInt key, Int64.toInt_lt key⟩

theorem Key.ofInt_eq_iff {number : ℤ} (holds : Key.Holds number) {key : Key} :
    Int64.ofInt number = key ↔ number = key.toInt := by
  obtain ⟨least, below⟩ := Key.holds_iff.mp holds
  rw [← Int64.toInt_inj, Int64.toInt_ofInt_of_le least below]

theorem Key.clamp_of_holds {number : ℤ} (holds : Key.Holds number) :
    Key.clamp number = Int64.ofInt number := by
  rw [Key.clamp, if_neg (Int.not_lt.mpr holds.1), if_neg (Int.not_lt.mpr holds.2)]

theorem Key.clamp_of_not_holds {number : ℤ} (beyond : ¬Key.Holds number) :
    Key.clamp number = Key.limit number := by
  have low : Int64.minValue.toInt = -2 ^ 63 := rfl
  have high : Int64.maxValue.toInt = 2 ^ 63 - 1 := rfl
  rw [Key.Holds] at beyond
  by_cases below : number < Int64.minValue.toInt
  · rw [Key.clamp, if_pos below, Key.limit, if_pos (by omega)]
  · have above : Int64.maxValue.toInt < number := by omega
    rw [Key.clamp, if_neg below, if_pos above, Key.limit, if_neg (by omega)]

theorem Value.Denotes.unique {value : Value} {number other : ℤ} (denotes : value.Denotes number)
    (also : value.Denotes other) : number = other := by
  cases denotes with
  | integer =>
    cases also
    rfl
  | real finite exact =>
    cases also with
    | real _ alsoExact => exact Int.cast_injective (exact.symm.trans alsoExact)
  | text numeral =>
    cases also with
    | text alsoNumeral =>
      have read := Text.integer?_eq_some_iff.mpr numeral
      exact Option.some.inj (read.symm.trans (Text.integer?_eq_some_iff.mpr alsoNumeral))

theorem Value.not_overflows {value : Value} (other : ∀ x, value ≠ .real x) (number : ℤ) :
    ¬value.Overflows number :=
  fun ⟨⟨x, same⟩, _⟩ => other x same

/-- How a key is read. A float beyond the range is taken for the end of the range. -/
inductive Key.Reads (kind : StatementKind) : Option Value → Except Failure Key → Prop
  | absent : Reads kind none (.error (.missingKey kind))
  | null : Reads kind (some .null) (.error (.missingKey kind))
  | number {value : Value} {key : Key} (denotes : value.Denotes key.toInt) :
      Reads kind (some value) (.ok key)
  | overflow {value : Value} {number : ℤ} (overflows : value.Overflows number) :
      Reads kind (some value) (.ok (Key.limit number))
  | other {value : Value} (given : value ≠ .null)
      (unread : ∀ key : Key, ¬value.Denotes key.toInt)
      (within : ∀ number, ¬value.Overflows number) :
      Reads kind (some value) (.error (.badParameter (.keyNotInteger kind value)))

theorem Key.real_reads (kind : StatementKind) (x : Binary64) :
    Key.Reads kind (some (.real x)) (Key.ofValue kind (some (.real x))) := by
  cases whole : x.integer? with
  | none =>
    have unread : ∀ number, ¬(Value.real x).Denotes number := by
      rintro number (_ | ⟨finite, exact⟩)
      rw [Binary64.integer?_eq_some_iff.mpr ⟨finite, exact⟩] at whole
      cases whole
    simp only [Key.ofValue, whole]
    exact .other nofun (fun key => unread _) fun number overflows => unread _ overflows.2.1
  | some number =>
    obtain ⟨finite, exact⟩ := Binary64.integer?_eq_some_iff.mp whole
    have denotes : (Value.real x).Denotes number := .real finite exact
    simp only [Key.ofValue, whole]
    by_cases holds : Key.Holds number
    · rw [Key.clamp_of_holds holds]
      have same := (Key.ofInt_eq_iff holds).mp rfl
      exact .number (same ▸ denotes)
    · rw [Key.clamp_of_not_holds holds]
      exact .overflow ⟨⟨x, rfl⟩, denotes, holds⟩

theorem Key.text_reads (kind : StatementKind) (content : String) :
    Key.Reads kind (some (.text content)) (Key.ofValue kind (some (.text content))) := by
  have within := @Value.not_overflows (.text content) nofun
  cases written : Text.integer? (Text.trim content.toList) with
  | none =>
    have unread : ∀ number, ¬(Value.text content).Denotes number := by
      rintro number (_ | _ | numeral)
      rw [Text.integer?_eq_some_iff.mpr numeral] at written
      cases written
    simp only [Key.ofValue, written]
    exact .other nofun (fun key => unread _) within
  | some number =>
    have denotes : (Value.text content).Denotes number :=
      .text (Text.integer?_eq_some_iff.mp written)
    simp only [Key.ofValue, written]
    split
    case isTrue holds =>
      have same := (Key.ofInt_eq_iff holds).mp rfl
      exact .number (same ▸ denotes)
    case isFalse beyond =>
      -- The numeral stands for this number only, and no key is this number.
      refine .other nofun (fun key also => beyond ?_) within
      exact denotes.unique also ▸ key.holds_toInt

theorem Key.ofValue_reads (kind : StatementKind) (value? : Option Value) :
    Key.Reads kind value? (Key.ofValue kind value?) := by
  cases value? with
  | none => exact .absent
  | some value =>
    cases value with
    | null => exact .null
    | integer number => exact .number (.integer number)
    | real x => exact Key.real_reads kind x
    | text content => exact Key.text_reads kind content
    | bool | timestamp | blob | json =>
      exact .other nofun (fun _ => nofun) (Value.not_overflows nofun)

theorem Key.ofValue_ok_iff {kind : StatementKind} {value : Value} {key : Key} :
    Key.ofValue kind (some value) = .ok key ↔
      value.Denotes key.toInt ∨ ∃ number, value.Overflows number ∧ key = Key.limit number := by
  have reads := Key.ofValue_reads kind (some value)
  constructor
  · intro read
    rw [read] at reads
    cases reads with
    | number denotes => exact .inl denotes
    | overflow overflows => exact .inr ⟨_, overflows, rfl⟩
  · intro addressed
    -- A value denotes one number, so each way of reading it rules out the others.
    generalize Key.ofValue kind (some value) = answer at reads
    cases reads with
    | null =>
      rcases addressed with denotes | ⟨_, ⟨_, denotes, _⟩, _⟩ <;> cases denotes
    | @number _ other denotes =>
      rcases addressed with also | ⟨number, ⟨_, also, beyond⟩, _⟩
      · rw [Int64.toInt_inj.mp (denotes.unique also)]
      · exact absurd (denotes.unique also ▸ other.holds_toInt) beyond
    | @overflow _ number overflows =>
      obtain ⟨real, denotes, beyond⟩ := overflows
      rcases addressed with also | ⟨other, ⟨_, also, _⟩, rfl⟩
      · exact absurd (also.unique denotes ▸ key.holds_toInt) beyond
      · rw [denotes.unique also]
    | other _ unread within =>
      rcases addressed with denotes | ⟨number, overflows, _⟩
      · exact absurd denotes (unread key)
      · exact absurd overflows (within number)

theorem Key.ofValue_missing_iff {kind other : StatementKind} {value? : Option Value} :
    Key.ofValue kind value? = .error (.missingKey other) ↔
      other = kind ∧ (value? = none ∨ value? = some .null) := by
  constructor
  · intro read
    have reads := Key.ofValue_reads kind value?
    rw [read] at reads
    cases reads with
    | absent => exact ⟨rfl, .inl rfl⟩
    | null => exact ⟨rfl, .inr rfl⟩
  · rintro ⟨rfl, rfl | rfl⟩ <;> rfl

theorem Key.ofValue_bad_iff {kind : StatementKind} {value : Value} :
    (∃ fault, Key.ofValue kind (some value) = .error (.badParameter fault)) ↔
      value ≠ .null ∧ (∀ key : Key, ¬value.Denotes key.toInt) ∧
        ∀ number, ¬value.Overflows number := by
  have reads := Key.ofValue_reads kind (some value)
  constructor
  · rintro ⟨fault, read⟩
    rw [read] at reads
    cases reads with
    | other given unread within => exact ⟨given, unread, within⟩
  · rintro ⟨given, unread, within⟩
    generalize Key.ofValue kind (some value) = answer at reads ⊢
    cases reads with
    | null => exact absurd rfl given
    | number denotes => exact absurd denotes (unread _)
    | overflow overflows => exact absurd overflows (within _)
    | other => exact ⟨_, rfl⟩

/-- What a key tells of the number behind it. -/
theorem Key.number_or_overflow {kind : StatementKind} {value : Value} {key : Key} {number : ℤ}
    (read : Key.ofValue kind (some value) = .ok key) (denotes : value.Denotes number) :
    number = key.toInt ∨ value.Overflows number := by
  rcases Key.ofValue_ok_iff.mp read with also | ⟨other, overflows, -⟩
  · exact .inl (denotes.unique also)
  · exact .inr (denotes.unique overflows.2.1 ▸ overflows)

/-- A value is the key whose number it stands for, and nothing else is a key but a float beyond
the range, which is the nearest one. So two numbers have one key only beyond the range. -/
theorem key_is_number_unless_overflowing (kind : StatementKind) :
    (∀ (value : Value) (key : Key), Key.ofValue kind (some value) = .ok key ↔
      value.Denotes key.toInt ∨ ∃ number, value.Overflows number ∧ key = Key.limit number) ∧
    (∀ value? : Option Value, Key.ofValue kind value? = .error (.missingKey kind) ↔
      value? = none ∨ value? = some .null) ∧
    (∀ value : Value, (∃ fault, Key.ofValue kind (some value) = .error (.badParameter fault)) ↔
      value ≠ .null ∧ (∀ key : Key, ¬value.Denotes key.toInt) ∧
        ∀ number, ¬value.Overflows number) ∧
    ∀ (first second : Value) (number other : ℤ) (key : Key),
      first.Denotes number → second.Denotes other →
      Key.ofValue kind (some first) = .ok key → Key.ofValue kind (some second) = .ok key →
        number = other ∨ first.Overflows number ∨ second.Overflows other := by
  refine ⟨fun _ _ => Key.ofValue_ok_iff, fun value? => ?_, fun _ => Key.ofValue_bad_iff, ?_⟩
  · rw [Key.ofValue_missing_iff]
    exact and_iff_right rfl
  · intro first second number other key denotes alsoDenotes read alsoRead
    rcases Key.number_or_overflow read denotes with same | overflows
    · rcases Key.number_or_overflow alsoRead alsoDenotes with alsoSame | overflows
      · exact .inl (same.trans alsoSame.symm)
      · exact .inr (.inr overflows)
    · exact .inr (.inl overflows)

/-- The first float beyond the keys. -/
def firstBeyond : Value := .real ⟨0x43E0000000000000⟩

/-- It is taken for the last key, which stands for another number. -/
theorem float_beyond_keys_is_last_key :
    firstBeyond.Denotes (2 ^ 63) ∧
      Key.ofValue .delete (some firstBeyond) = .ok Int64.maxValue ∧
      Key.ofValue .delete (some (.integer Int64.maxValue)) = .ok Int64.maxValue ∧
      ¬∀ (kind : StatementKind) (value : Value) (key : Key),
        Key.ofValue kind (some value) = .ok key ↔ value.Denotes key.toInt := by
  obtain ⟨finite, exact⟩ := Binary64.integer?_eq_some_iff.mp
    (show Binary64.integer? ⟨0x43E0000000000000⟩ = some (2 ^ 63) by decide +kernel)
  have denotes : firstBeyond.Denotes (2 ^ 63) := .real finite exact
  have read : Key.ofValue .delete (some firstBeyond) = .ok Int64.maxValue := by rfl
  refine ⟨denotes, read, rfl, fun claim => ?_⟩
  have number := denotes.unique ((claim .delete firstBeyond Int64.maxValue).mp read)
  exact absurd number (by decide)

end RecordSql
