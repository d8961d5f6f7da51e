import RecordSql.Text.Runs

/-!
White space. A character is blank when it has the White_Space property, which
25 code points have. Trimming removes blanks from the ends of a text and
nothing from its inside.
-/

namespace RecordSql.Text

def blankRuns : List Nat :=
  [0x9, 0xE, 0x20, 0x21, 0x85, 0x86, 0xA0, 0xA1, 0x1680, 0x1681,
    0x2000, 0x200B, 0x2028, 0x202A, 0x202F, 0x2030, 0x205F, 0x2060,
    0x3000, 0x3001]

def isBlank (c : Char) : Bool := inRuns blankRuns c.toNat

def trimStart (text : List Char) : List Char := text.dropWhile isBlank

def trimEnd (text : List Char) : List Char := (trimStart text.reverse).reverse

def trim (text : List Char) : List Char := trimEnd (trimStart text)

theorem trimStart_cons_of_blank {c : Char} {rest : List Char}
    (blank : isBlank c = true) : trimStart (c :: rest) = trimStart rest := by
  simp [trimStart, blank]

theorem trimStart_cons_of_not_blank {c : Char} {rest : List Char}
    (solid : isBlank c = false) : trimStart (c :: rest) = c :: rest := by
  simp [trimStart, solid]

end RecordSql.Text
