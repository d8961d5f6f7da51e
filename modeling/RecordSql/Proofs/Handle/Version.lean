import RecordSql.Handle.Basic
import RecordSql.Proofs.Text.Blanks
import RecordSql.Proofs.Text.Numerals

/-!
Which version a text asks for. Behind its leading blanks a text that is not blank has a sign, a
run of digits that goes on until another character comes, and a rest that plays no part. It asks
for the number that the run stands for, if the sign is no minus and the number is a version;
everything else is refused.
-/

namespace RecordSql

open Text

namespace Version

/-- A text that begins with a number, cut behind the number. -/
structure Cut (text sign digits rest : List Char) : Prop where
  whole : text = sign ++ (digits ++ rest)
  signed : sign = [] ∨ sign = ['+'] ∨ sign = ['-']
  run : AreDigits digits
  /-- The run of digits is not cut short. -/
  stops : rest.head?.all (!isDigit ·) = true

variable {text : String} {start sign digits rest : List Char}

theorem takeWhile_run (run : AreDigits digits) (stops : rest.head?.all (!isDigit ·) = true) :
    (digits ++ rest).takeWhile isDigit = digits := by
  rw [List.takeWhile_append_of_pos run.digit]
  cases rest with
  | nil => exact List.append_nil digits
  | cons c others =>
    have other : isDigit c = false := by simpa using stops
    rw [List.takeWhile_cons_of_neg (by simp [other]), List.append_nil]

/-- The digits come first, so nothing is taken for a sign. -/
theorem dropSign_run (run : AreDigits digits) (rest : List Char) :
    dropSign (digits ++ rest) = (false, digits ++ rest) := by
  obtain ⟨first, others, rfl⟩ := List.exists_cons_of_ne_nil run.nonempty
  have digit := run.digit first List.mem_cons_self
  unfold dropSign
  split
  case h_1 same => cases same; cases digit
  case h_2 same => cases same; cases digit
  case h_3 => rfl

theorem dropSign_split (start : List Char) : ∃ sign, start = sign ++ (dropSign start).2 ∧
    (sign = [] ∨ sign = ['+'] ∨ sign = ['-']) := by
  unfold dropSign
  split
  · exact ⟨['-'], rfl, .inr (.inr rfl)⟩
  · exact ⟨['+'], rfl, .inr (.inl rfl)⟩
  · exact ⟨[], rfl, .inl rfl⟩

theorem Cut.dropSign (cut : Cut start sign digits rest) :
    dropSign start = (decide (sign = ['-']), digits ++ rest) := by
  rw [cut.whole]
  rcases cut.signed with rfl | rfl | rfl
  · exact dropSign_run cut.run rest
  · rfl
  · rfl

theorem Cut.nonempty (cut : Cut start sign digits rest) : start ≠ [] := by
  rw [cut.whole]
  exact List.append_ne_nil_of_right_ne_nil _ (List.append_ne_nil_of_left_ne_nil cut.run.nonempty _)

theorem cut_or_bare (start : List Char) :
    (∃ sign digits rest, Cut start sign digits rest) ∨
      (dropSign start).2.takeWhile isDigit = [] := by
  obtain ⟨sign, whole, signed⟩ := dropSign_split start
  by_cases bare : (dropSign start).2.takeWhile isDigit = []
  · exact .inr bare
  · refine .inl ⟨sign, (dropSign start).2.takeWhile isDigit, (dropSign start).2.dropWhile isDigit,
      ?_, signed, ⟨bare, fun c member => List.mem_takeWhile_imp member⟩,
      head?_dropWhile_all isDigit _⟩
    rw [List.takeWhile_append_dropWhile]
    exact whole

theorem read_of_blank (blank : trimStart text.toList = []) : read text = .ok none := by
  simp only [read, blank, List.isEmpty_nil, ↓reduceIte]

theorem read_of_solid (solid : trimStart text.toList ≠ []) :
    read text = (ofDigits text (dropSign (trimStart text.toList)).1
      ((dropSign (trimStart text.toList)).2.takeWhile isDigit)).map some := by
  simp only [read, List.isEmpty_eq_false_iff.mpr solid, Bool.false_eq_true, ↓reduceIte]

theorem read_of_bare (solid : trimStart text.toList ≠ [])
    (bare : (dropSign (trimStart text.toList)).2.takeWhile isDigit = []) :
    read text = .error (.versionNotNumber text) := by
  rw [read_of_solid solid, bare]
  rfl

theorem read_of_cut (cut : Cut (trimStart text.toList) sign digits rest) :
    read text =
      if UInt32.size ≤ placeValue digits then .error (.versionTooLarge text)
      else if placeValue digits = 0 ∨ sign = ['-'] then .error (.versionNotPositive text)
      else .ok (some (UInt32.ofNat (placeValue digits))) := by
  have given : digits.isEmpty = false := List.isEmpty_eq_false_iff.mpr cut.run.nonempty
  rw [read_of_solid cut.nonempty, cut.dropSign, takeWhile_run cut.run cut.stops]
  simp only [ofDigits, given, naturalOf_eq_placeValue, decide_eq_true_eq, Bool.false_eq_true,
    ↓reduceIte]
  split
  · rfl
  · split <;> rfl

/-- Why a text is refused. -/
inductive Refused (text : String) : ConfigurationFault → Prop
  | notNumber (solid : trimStart text.toList ≠ [])
      (bare : ∀ sign digits rest, ¬Cut (trimStart text.toList) sign digits rest) :
      Refused text (.versionNotNumber text)
  | notPositive {sign digits rest : List Char}
      (cut : Cut (trimStart text.toList) sign digits rest) (fits : placeValue digits < UInt32.size)
      (downward : placeValue digits = 0 ∨ sign = ['-']) :
      Refused text (.versionNotPositive text)
  | tooLarge {sign digits rest : List Char}
      (cut : Cut (trimStart text.toList) sign digits rest)
      (beyond : UInt32.size ≤ placeValue digits) :
      Refused text (.versionTooLarge text)

/-- What a text asks for: no version in particular, a version, or nothing that there is. -/
inductive Asks (text : String) : Except ConfigurationFault (Option UInt32) → Prop
  | any (blank : trimStart text.toList = []) : Asks text (.ok none)
  | version {sign digits rest : List Char} {version : UInt32}
      (cut : Cut (trimStart text.toList) sign digits rest) (upward : sign ≠ ['-'])
      (positive : 1 ≤ placeValue digits) (value : placeValue digits = version.toNat) :
      Asks text (.ok (some version))
  | nothing {fault : ConfigurationFault} (refused : Refused text fault) : Asks text (.error fault)

theorem read_asks (text : String) : Asks text (read text) := by
  by_cases blank : trimStart text.toList = []
  · rw [read_of_blank blank]
    exact .any blank
  · rcases cut_or_bare (trimStart text.toList) with ⟨sign, digits, rest, cut⟩ | bare
    -- A number too large is refused as such before its sign is looked at.
    · rw [read_of_cut cut]
      split
      case isTrue beyond => exact .nothing (.tooLarge cut beyond)
      case isFalse within =>
        have fits := Nat.lt_of_not_le within
        split
        case isTrue downward => exact .nothing (.notPositive cut fits downward)
        case isFalse upward =>
          obtain ⟨positive, signed⟩ := not_or.mp upward
          exact .version cut signed (Nat.one_le_iff_ne_zero.mpr positive)
            (UInt32.toNat_ofNat_of_lt' fits).symm
    · rw [read_of_bare blank bare]
      refine .nothing (.notNumber blank fun sign digits rest cut => cut.run.nonempty ?_)
      rw [← takeWhile_run cut.run cut.stops, ← bare, cut.dropSign]

theorem Asks.read_eq {answer : Except ConfigurationFault (Option UInt32)}
    (asks : Asks text answer) : read text = answer := by
  cases asks with
  | any blank => exact read_of_blank blank
  | @version sign digits rest version cut upward positive value =>
    have fits : ¬UInt32.size ≤ placeValue digits := by
      rw [value]
      exact Nat.not_le_of_lt version.toNat_lt_size
    have given : ¬(placeValue digits = 0 ∨ sign = ['-']) :=
      not_or.mpr ⟨Nat.one_le_iff_ne_zero.mp positive, upward⟩
    rw [read_of_cut cut, if_neg fits, if_neg given, value, UInt32.ofNat_toNat]
  | nothing refused =>
    cases refused with
    | notNumber solid bare =>
      rcases cut_or_bare (trimStart text.toList) with ⟨sign, digits, rest, cut⟩ | none
      · exact absurd cut (bare sign digits rest)
      · exact read_of_bare solid none
    | notPositive cut fits downward =>
      rw [read_of_cut cut, if_neg (Nat.not_le_of_lt fits), if_pos downward]
    | tooLarge cut beyond => rw [read_of_cut cut, if_pos beyond]

theorem read_eq_iff {answer : Except ConfigurationFault (Option UInt32)} :
    read text = answer ↔ Asks text answer :=
  ⟨fun same => same ▸ read_asks text, Asks.read_eq⟩

/-- A version is written before anything that is no digit. -/
theorem cut_decimal (number : ℕ) {suffix : String}
    (stops : suffix.toList.head?.all (!isDigit ·) = true) :
    Cut (trimStart (decimal number ++ suffix).toList) [] (digitsOf number) suffix.toList := by
  have run : AreDigits (digitsOf number) :=
    ⟨digitsOf_ne_nil number, fun c member => isDigit_of_mem_digitsOf member⟩
  obtain ⟨first, others, same⟩ := List.exists_cons_of_ne_nil run.nonempty
  have solid : isBlank first = false :=
    isBlank_of_isDigit (run.digit first (same ▸ List.mem_cons_self))
  refine ⟨?_, .inl rfl, run, stops⟩
  rw [String.toList_append, decimal, String.toList_ofList, same, List.cons_append,
    trimStart_cons_of_not_blank solid]
  rfl

theorem placeValue_digitsOf (number : ℕ) : placeValue (digitsOf number) = number := by
  rw [← naturalOf_eq_placeValue]
  exact Nat.ofDigitChars_ten_toDigits

theorem read_decimal {version : UInt32} (positive : 1 ≤ version.toNat) {suffix : String}
    (stops : suffix.toList.head?.all (!isDigit ·) = true) :
    read (decimal version.toNat ++ suffix) = .ok (some version) := by
  refine read_eq_iff.mpr (.version (cut_decimal version.toNat stops) (by decide) ?_ ?_)
  · rwa [placeValue_digitsOf]
  · exact placeValue_digitsOf version.toNat

end Version

/-- A handle opens its database at the version that its text asks for. -/
theorem Handle.openFirst_sends {handle : Handle} {version? : Option UInt32}
    (asked : Version.read handle.options.version = .ok version?) (journal : Journal) :
    (handle.openFirst journal).2 = (journal.send (.openDatabase handle.options.name version?
      fun _ _ => .createMissing handle.options.firstCollections .finish)).2 := by
  simp only [openFirst, asked]
  split
  all_goals
    rename_i opened
    exact (congrArg (·.2.2) opened).symm

namespace Version

/-- A blank text asks for no version in particular. Any other is read as far as its leading
number goes and asks for that version, or is refused. A version that is written out is therefore
opened, whatever follows that is no digit. -/
theorem version_is_leading_number :
    (∀ text : String,
      (read text = .ok none ↔ trimStart text.toList = []) ∧
      (∀ version : UInt32, read text = .ok (some version) ↔
        ∃ sign digits rest, Cut (trimStart text.toList) sign digits rest ∧ sign ≠ ['-'] ∧
          1 ≤ placeValue digits ∧ placeValue digits = version.toNat) ∧
      ∀ fault, read text = .error fault ↔ Refused text fault) ∧
    ∀ (version : UInt32) (suffix : String), 1 ≤ version.toNat →
      suffix.toList.head?.all (!isDigit ·) = true →
      read (decimal version.toNat ++ suffix) = .ok (some version) ∧
      ∀ (handle : Handle) (journal : Journal),
        handle.options.version = decimal version.toNat ++ suffix →
        (handle.openFirst journal).2 =
          (journal.send (.openDatabase handle.options.name (some version) fun _ _ =>
            .createMissing handle.options.firstCollections .finish)).2 := by
  refine ⟨fun text => ⟨?_, ?_, ?_⟩, ?_⟩
  · rw [read_eq_iff]
    constructor
    · intro asks
      cases asks with
      | any blank => exact blank
    · exact .any
  · intro version
    rw [read_eq_iff]
    constructor
    · intro asks
      cases asks with
      | version cut upward positive value => exact ⟨_, _, _, cut, upward, positive, value⟩
    · rintro ⟨sign, digits, rest, cut, upward, positive, value⟩
      exact .version cut upward positive value
  · intro fault
    rw [read_eq_iff]
    constructor
    · intro asks
      cases asks with
      | nothing refused => exact refused
    · exact .nothing
  · intro version suffix positive stops
    have reads := read_decimal positive stops
    refine ⟨reads, fun handle journal same => ?_⟩
    exact Handle.openFirst_sends (same ▸ reads) journal

/-- The greatest version with a fraction behind it, a version among blanks, a plus and zeros, and
the first number beyond the versions. -/
theorem greatest_version_is_read :
    read "4294967295.5" = .ok (some 4294967295) ∧ read " \u3000+007 beta" = .ok (some 7) ∧
      read "4294967296" = .error (.versionTooLarge "4294967296") := by
  obtain ⟨reads, written⟩ := version_is_leading_number
  have seven : Cut (trimStart " \u3000+007 beta".toList) ['+'] ['0', '0', '7'] " beta".toList :=
    ⟨rfl, by decide, ⟨List.cons_ne_nil _ _, List.all_eq_true.mp rfl⟩, rfl⟩
  have beyond : Cut (trimStart "4294967296".toList) [] "4294967296".toList [] :=
    ⟨rfl, by decide, ⟨List.cons_ne_nil _ _, List.all_eq_true.mp rfl⟩, rfl⟩
  refine ⟨(written 4294967295 ".5" (by decide) (by decide)).1, ?_, ?_⟩
  · exact ((reads " \u3000+007 beta").2.1 7).mpr
      ⟨['+'], ['0', '0', '7'], " beta".toList, seven, by decide, by decide, by decide⟩
  · exact ((reads "4294967296").2.2 _).mpr (.tooLarge beyond (by decide))

end Version

end RecordSql
