import RecordSql.Text.HiddenRuns
import RecordSql.Text.Runs

/-!
Text in double quotes, as messages show it. The quote and the backslash get a
backslash, the usual controls their letter, and every other character that
does not show on its own its code point in braces.
-/

namespace RecordSql.Text

def isHidden (c : Char) : Bool := inRuns hiddenRuns c.toNat

def escape (c : Char) : List Char :=
  match c with
  | '\x00' => ['\\', '0']
  | '\t' => ['\\', 't']
  | '\r' => ['\\', 'r']
  | '\n' => ['\\', 'n']
  | '"' => ['\\', '"']
  | '\\' => ['\\', '\\']
  | c =>
      if isHidden c then ['\\', 'u', '\x7b'] ++ Nat.toDigits 16 c.toNat ++ ['\x7d']
      else [c]

def quoted (text : String) : String :=
  String.ofList (['"'] ++ text.toList.flatMap escape ++ ['"'])

end RecordSql.Text
