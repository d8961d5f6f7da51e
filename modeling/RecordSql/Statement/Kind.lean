import RecordSql.Text.Blank

/-!
The kinds of statements. A statement's kind is read off its leading keyword,
without regard to ASCII case and to blanks before it; what follows the keyword
plays no part.
-/

namespace RecordSql

inductive StatementKind where
  | insert
  | select
  | update
  | delete
  | unrecognized
deriving DecidableEq

namespace StatementKind

def keyword : StatementKind → String
  | .insert => "INSERT"
  | .select => "SELECT"
  | .update => "UPDATE"
  | .delete => "DELETE"
  | .unrecognized => "UNRECOGNIZED"

def inspect : StatementKind → String
  | .insert => "Insert"
  | .select => "Select"
  | .update => "Update"
  | .delete => "Delete"
  | .unrecognized => "Unrecognized"

def recognized : List StatementKind := [.insert, .select, .update, .delete]

/-- Whether a text begins with a word, in ASCII letters of any case. -/
def leads : List Char → List Char → Bool
  | [], _ => true
  | capital :: word, c :: text => c.toUpper == capital && leads word text
  | _ :: _, [] => false

def classify (sql : List Char) : StatementKind :=
  let text := Text.trimStart sql
  (recognized.find? fun kind => leads kind.keyword.toList text).getD .unrecognized

end StatementKind

end RecordSql
