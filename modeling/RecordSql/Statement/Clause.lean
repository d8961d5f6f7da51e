import RecordSql.Text.Blank
import RecordSql.Text.Letter
import RecordSql.Text.Word

/-!
The clauses that are understood, each found at its first occurrence anywhere in
a statement:

* `INSERT INTO name (columns) VALUES (values)`
* `UPDATE name SET assignments WHERE id =`
* `DELETE FROM name WHERE id =`
* `FROM name`, `INTO name` or `UPDATE name`, where the word starts at a word
  boundary and any blanks stand before the name

Words match in any case form and are separated by single spaces. Nothing after
the last word of a clause is looked at.
-/

namespace RecordSql

structure InsertClause where
  table : List Char
  columns : List Char
  values : List Char
deriving DecidableEq

structure UpdateClause where
  table : List Char
  assignments : List Char
deriving DecidableEq

structure DeleteClause where
  table : List Char
deriving DecidableEq

namespace Clause

/-- The first success of a reader along a text. -/
def first? {Found : Type} (read : List Char → Option Found) : List Char → Option Found
  | [] => read []
  | c :: rest =>
      match read (c :: rest) with
      | some found => some found
      | none => first? read rest

def nonempty? (text : List Char) : Option (List Char) :=
  if text.isEmpty then none else some text

/-- A name of at least one character, and what follows it. -/
def readName (text : List Char) : Option (List Char × List Char) :=
  (nonempty? (Text.takeName text).1).map fun name => (name, (Text.takeName text).2)

/-- At least one character up to a closing bracket, and what follows them. -/
def readInside (text : List Char) : Option (List Char × List Char) :=
  (nonempty? (text.takeWhile (· != ')'))).map fun inside =>
    (inside, text.dropWhile (· != ')'))

def insertWords : List Char := "INSERT INTO ".toList

def valuesWords : List Char := ") VALUES (".toList

def updateWords : List Char := "UPDATE ".toList

def setWords : List Char := " SET ".toList

def deleteWords : List Char := "DELETE FROM ".toList

def keyWords : List Char := " WHERE ID =".toList

def insertHere? (text : List Char) : Option InsertClause := do
  let text ← Text.dropWord? insertWords text
  let (table, text) ← readName text
  let text ← Text.dropWord? [' ', '('] text
  let (columns, text) ← readInside text
  let text ← Text.dropWord? valuesWords text
  let (values, text) ← readInside text
  let _ ← Text.dropWord? [')'] text
  some { table, columns, values }

/-- The longest beginning of a line that the key condition follows. -/
def beforeKey? : List Char → Option (List Char)
  | [] => none
  | c :: rest =>
      match if c = '\n' then none else beforeKey? rest with
      | some taken => some (c :: taken)
      | none => if (Text.dropWord? keyWords (c :: rest)).isSome then some [] else none

def updateHere? (text : List Char) : Option UpdateClause := do
  let text ← Text.dropWord? updateWords text
  let (table, text) ← readName text
  let text ← Text.dropWord? setWords text
  let assignments ← beforeKey? text
  let assignments ← nonempty? assignments
  some { table, assignments }

def deleteHere? (text : List Char) : Option DeleteClause := do
  let text ← Text.dropWord? deleteWords text
  let (table, text) ← readName text
  let _ ← Text.dropWord? keyWords text
  some { table }

def tableWords : List (List Char) := ["FROM".toList, "INTO".toList, "UPDATE".toList]

/-- At least one blank and a name. -/
def readTable (text : List Char) : Option (List Char) :=
  match text with
  | c :: rest =>
      if Text.isBlank c then nonempty? (Text.takeName (Text.trimStart rest)).1 else none
  | [] => none

def tableHere? (previous : Option Char) (text : List Char) : Option (List Char) :=
  if Text.startsWord previous then
    tableWords.findSome? fun word => (Text.dropWord? word text).bind readTable
  else none

def tableFrom? (previous : Option Char) : List Char → Option (List Char)
  | [] => none
  | c :: rest =>
      match tableHere? previous (c :: rest) with
      | some table => some table
      | none => tableFrom? (some c) rest

end Clause

def insertClause? (sql : List Char) : Option InsertClause :=
  Clause.first? Clause.insertHere? sql

def updateClause? (sql : List Char) : Option UpdateClause :=
  Clause.first? Clause.updateHere? sql

def deleteClause? (sql : List Char) : Option DeleteClause :=
  Clause.first? Clause.deleteHere? sql

/-- The name in the first table clause. -/
def tableName? (sql : List Char) : Option (List Char) := Clause.tableFrom? none sql

end RecordSql
