import Mathlib.Data.List.TakeWhile
import RecordSql.Proofs.Text.Cutting
import RecordSql.Text.Letter
import RecordSql.Text.Word

/-!
Blanks at the ends of a text. No blank is part of a name or of a word, and trimming takes off
exactly what surrounds the first and the last character that is not blank.
-/

namespace RecordSql.Text

def blanks : List Char :=
  ['\t', '\n', '\x0b', '\x0c', '\r', ' ', '\x85', '\xa0', '\u1680', '\u2000', '\u2001', '\u2002',
    '\u2003', '\u2004', '\u2005', '\u2006', '\u2007', '\u2008', '\u2009', '\u200a', '\u2028',
    '\u2029', '\u202f', '\u205f', '\u3000']

theorem mem_blanks {c : Char} (blank : isBlank c = true) : c ∈ blanks := by
  have codes : blanks.map Char.toNat = [9, 10, 11, 12, 13, 32, 0x85, 0xA0, 0x1680, 0x2000,
      0x2001, 0x2002, 0x2003, 0x2004, 0x2005, 0x2006, 0x2007, 0x2008, 0x2009, 0x200A, 0x2028,
      0x2029, 0x202F, 0x205F, 0x3000] := rfl
  have code : c.toNat ∈ blanks.map Char.toNat := by
    simp only [isBlank, blankRuns, inRuns, Bool.if_false_left, Bool.if_true_left,
      Bool.and_eq_true, Bool.or_eq_true, Bool.not_eq_true', decide_eq_true_eq,
      decide_eq_false_iff_not, Bool.false_eq_true, or_false] at blank
    simp only [codes, List.mem_cons, List.not_mem_nil, or_false]
    omega
  obtain ⟨other, member, same⟩ := List.mem_map.mp code
  rwa [← Char.ofNat_toNat c, ← same, Char.ofNat_toNat]

theorem isNameChar_of_blank {c : Char} (blank : isBlank c = true) : isNameChar c = false := by
  have all : blanks.all (!isNameChar ·) = true := rfl
  simpa using List.all_eq_true.mp all c (mem_blanks blank)

theorem isBlank_of_isNameChar {c : Char} (named : isNameChar c = true) : isBlank c = false := by
  by_contra blank
  rw [isNameChar_of_blank (by simpa using blank)] at named
  cases named

theorem isWordChar_of_blank {c : Char} (blank : isBlank c = true) : isWordChar c = false := by
  have all : blanks.all (!isWordChar ·) = true := by decide +kernel
  simpa using List.all_eq_true.mp all c (mem_blanks blank)

theorem head?_dropWhile_all (stops : Char → Bool) (text : List Char) :
    (text.dropWhile stops).head?.all (!stops ·) = true := by
  have first := List.head?_dropWhile_not stops text
  cases shown : (text.dropWhile stops).head? with
  | none => rfl
  | some c => simpa [shown] using first

theorem trimStart_of_blank {text : List Char} (blank : ∀ c ∈ text, isBlank c = true) :
    trimStart text = [] :=
  List.dropWhile_eq_nil_iff.mpr blank

theorem trimStart_blank_append {front : List Char} (blank : ∀ c ∈ front, isBlank c = true)
    (text : List Char) : trimStart (front ++ text) = trimStart text :=
  List.dropWhile_append_of_pos blank

theorem trimEnd_append_blanks {back : List Char} (blank : ∀ c ∈ back, isBlank c = true)
    (text : List Char) : trimEnd (text ++ back) = trimEnd text := by
  have reversed : ∀ c ∈ back.reverse, isBlank c = true := fun c held =>
    blank c (List.mem_reverse.mp held)
  rw [trimEnd, List.reverse_append, trimStart_blank_append reversed, trimEnd]

/-- Blanks behind a text stay unless there is nothing else. -/
theorem trimStart_append_blanks {back : List Char} (blank : ∀ c ∈ back, isBlank c = true)
    (text : List Char) :
    trimStart (text ++ back) = trimStart text ++ back ∨
      trimStart (text ++ back) = [] ∧ trimStart text = [] := by
  by_cases gone : trimStart text = []
  · have all : ∀ c ∈ text ++ back, isBlank c = true := fun c held =>
      (List.mem_append.mp held).elim (List.dropWhile_eq_nil_iff.mp gone c) (blank c)
    exact .inr ⟨trimStart_of_blank all, gone⟩
  · left
    simp only [trimStart] at gone ⊢
    rw [List.dropWhile_append, if_neg (by simpa using gone)]

theorem trim_surrounded {front back : List Char} (before : ∀ c ∈ front, isBlank c = true)
    (after : ∀ c ∈ back, isBlank c = true) (text : List Char) :
    trim (front ++ (text ++ back)) = trim text := by
  rw [trim, trimStart_blank_append before, trim]
  rcases trimStart_append_blanks after text with kept | ⟨gone, none⟩
  · rw [kept, trimEnd_append_blanks after]
  · rw [gone, none]

/-- What trimming takes off is blank. -/
theorem trim_split (text : List Char) :
    ∃ front back, (∀ c ∈ front, isBlank c = true) ∧ (∀ c ∈ back, isBlank c = true) ∧
      text = front ++ (trim text ++ back) := by
  let started := trimStart text
  refine ⟨text.takeWhile isBlank, (started.reverse.takeWhile isBlank).reverse,
    fun c held => List.mem_takeWhile_imp held,
    fun c held => List.mem_takeWhile_imp (List.mem_reverse.mp held), ?_⟩
  have ended : trim text ++ (started.reverse.takeWhile isBlank).reverse = started := by
    rw [trim, trimEnd, trimStart, ← List.reverse_append, List.takeWhile_append_dropWhile,
      List.reverse_reverse]
  rw [ended]
  exact List.takeWhile_append_dropWhile.symm

/-- Where blanks are no end, what comes before the end can be trimmed earlier as well. -/
theorem trim_takeWhile {keep : Char → Bool} (kept : ∀ c, isBlank c = true → keep c = true)
    (text : List Char) : trim ((trim text).takeWhile keep) = trim (text.takeWhile keep) := by
  obtain ⟨front, back, before, after, whole⟩ := trim_split text
  have all : ∀ {blanks : List Char}, (∀ c ∈ blanks, isBlank c = true) →
      ∀ c ∈ blanks, keep c = true := fun blank c held => kept c (blank c held)
  have cut : text.takeWhile keep = front ++ (trim text ++ back).takeWhile keep := by
    rw [← List.takeWhile_append_of_pos (all before), ← whole]
  rw [cut, List.takeWhile_append]
  split
  case isTrue same =>
    have uncut : (trim text).takeWhile keep = trim text :=
      (List.takeWhile_prefix keep).eq_of_length same
    rw [List.takeWhile_eq_self_iff.mpr (all after), uncut, trim_surrounded before after]
  case isFalse =>
    have surrounded := @trim_surrounded front [] before nofun ((trim text).takeWhile keep)
    rw [List.append_nil] at surrounded
    exact surrounded.symm

/-- What is left of a text when the blanks at both of its ends are taken off. -/
structure Stripped (text inner : List Char) : Prop where
  surrounded : ∃ front back, (∀ c ∈ front, isBlank c = true) ∧ (∀ c ∈ back, isBlank c = true) ∧
    text = front ++ (inner ++ back)
  begins : inner.head?.all (!isBlank ·) = true
  ends : inner.getLast?.all (!isBlank ·) = true

theorem trim_stripped (text : List Char) : Stripped text (trim text) := by
  refine ⟨trim_split text, ?_, ?_⟩
  · have begins := head?_dropWhile_all isBlank text
    rw [trim]
    cases started : trimStart text with
    | nil => rfl
    | cons c rest =>
      have solid : isBlank c = false := by
        rw [trimStart] at started
        simpa [started] using begins
      have kept : trimEnd (c :: rest) = c :: trimEnd rest := trimEnd_append_solid solid [] rest
      simp [kept, solid]
  · rw [trim, trimEnd, List.getLast?_reverse]
    exact head?_dropWhile_all isBlank _

end RecordSql.Text
