import RecordSql.Text.WordRuns
import RecordSql.Text.Runs

/-!
Word boundaries. A word starts where a word character follows the start of the
text or a character that is none.
-/

namespace RecordSql.Text

def isWordChar (c : Char) : Bool := inRuns wordRuns c.toNat

/-- Whether a word character placed after `previous` starts a word. -/
def startsWord : Option Char → Bool
  | none => true
  | some previous => !isWordChar previous

end RecordSql.Text
