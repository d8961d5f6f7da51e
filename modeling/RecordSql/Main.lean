import RecordSql.Replay.CommandLine

/-!
The replay tool: runs a script against a fresh store and prints a report.
-/

namespace RecordSql.CommandLine

def readScript (path : String) : IO (Option String) := do
  try
    return some (← IO.FS.readFile path)
  catch _ =>
    return none

def openLog (path : String) : IO Bool := do
  try
    IO.FS.writeFile path ""
    return true
  catch _ =>
    return false

def give (answer : Answer) : IO UInt32 := do
  if let some text := answer.printed then
    IO.println text
  if let some text := answer.complaint then
    IO.eprintln text
  return answer.exitCode.toUInt32

def execute (arguments : Arguments) : IO UInt32 := do
  let logOpened ← match arguments.log? with
    | some path => openLog path
    | none => pure true
  let script? ← readScript arguments.script
  give (answer arguments { script?, logOpened })

end RecordSql.CommandLine

def main (arguments : List String) : IO UInt32 :=
  match RecordSql.Arguments.read arguments with
  | .ok arguments => RecordSql.CommandLine.execute arguments
  | .error fault => RecordSql.CommandLine.give (RecordSql.CommandLine.refuse fault)
