import RecordSql.Json.Printer
import RecordSql.Replay.Arguments
import RecordSql.Replay.Report

/-!
What the replay tool answers: the text it prints, what it complains of and its
exit code. The code is 1 where a file could not be used, 2 where the arguments
are wrong or a transaction failed, and otherwise 0.
-/

namespace RecordSql

structure Answer where
  exitCode : UInt8
  printed : Option String
  complaint : Option String

/-- What the tool finds where the arguments point. -/
structure Files where
  /-- The text of a script, if it can be read. -/
  script? : Option String
  /-- The log that was asked for could be opened. -/
  logOpened : Bool

namespace CommandLine

def usage : String :=
  "Usage: replay [--mode fixed|per-statement] [--database NAME] [--version VERSION] " ++
    "[--dump] [--log FILE] [--verbose] SCRIPT"

def versionText : String := "replay 0.1.0"

def refuse (fault : ArgumentFault) : Answer :=
  match fault with
  | .helpAsked => ⟨0, some usage, none⟩
  | .versionAsked => ⟨0, some versionText, none⟩
  | fault => ⟨2, none, some ("error: " ++ fault.name ++ "\n" ++ usage)⟩

def settings (arguments : Arguments) : ReplaySettings where
  schedule := .serial
  mode := arguments.mode
  database? := arguments.database?
  version? := arguments.version?

def report (arguments : Arguments) (script : Script) : Report :=
  script.replay (settings arguments)

def answerReport (arguments : Arguments) (report : Report) : Answer where
  exitCode := if report.transactions.all TransactionReport.committed then 0 else 2
  printed := some ((report.toJson arguments.dump).renderIndented 0)
  complaint := none

/-- The log is opened before the script is read. -/
def answer (arguments : Arguments) (files : Files) : Answer :=
  if arguments.log?.isSome && !files.logOpened then
    ⟨1, none, some "failed to open log file"⟩
  else
    match files.script?.bind Script.read? with
    | none => ⟨1, none, some ("failed to read " ++ arguments.script)⟩
    | some script => answerReport arguments (report arguments script)

end CommandLine

end RecordSql
