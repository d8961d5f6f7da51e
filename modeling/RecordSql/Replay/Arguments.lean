import RecordSql.Json.Basic
import RecordSql.Statement.Plan

/-!
The arguments of the replay tool: a script, options that take a value and
options that do not. A value stands in the argument after its option or behind
an equals sign. After `--` every argument stands for itself.

A value that is an argument of its own is looked at when the next one has been
recognized, or at the end; so an argument that is not known is told first.
-/

namespace RecordSql

structure Arguments where
  script : String
  mode : CollectionMode
  database? : Option String
  version? : Option String
  dump : Bool
  log? : Option String
  verbose : Bool

inductive ArgumentFault where
  | helpAsked
  | versionAsked
  | unknown
  | badValue
  /-- A value for an option that takes none. -/
  | needlessValue
  | repeated
  | scriptMissing
deriving DecidableEq

/-- What takes a value. The script is given without a name. -/
inductive Setting where
  | script
  | mode
  | database
  | version
  | log
deriving DecidableEq

/-- What takes none. -/
inductive Switch where
  | dump
  | verbose
  | help
deriving DecidableEq

/-- One argument on its own. -/
inductive ArgumentForm where
  | terminator
  | setting (setting : Setting) (attached? : Option String)
  | switch (switch : Switch) (attached? : Option String)
  | versionAsked
  | unknown
  | plain (value : String)

namespace ArgumentFault

def name : ArgumentFault → String
  | .helpAsked => "DisplayHelp"
  | .versionAsked => "DisplayVersion"
  | .unknown => "UnknownArgument"
  | .badValue => "InvalidValue"
  | .needlessValue => "TooManyValues"
  | .repeated => "ArgumentConflict"
  | .scriptMissing => "MissingRequiredArgument"

end ArgumentFault

namespace ArgumentForm

def settingOf? : String → Option Setting
  | "mode" => some .mode
  | "database" => some .database
  | "version" => some .version
  | "log" => some .log
  | _ => none

def switchOf? : String → Option Switch
  | "dump" => some .dump
  | "verbose" => some .verbose
  | "help" => some .help
  | _ => none

/-- A name with what stands behind its first equals sign, if there is one. -/
def splitValue (text : List Char) : String × Option String :=
  let name := String.ofList (text.takeWhile (· != '='))
  match text.dropWhile (· != '=') with
  | [] => (name, none)
  | _ :: value => (name, some (String.ofList value))

def ofName (name : String) (attached? : Option String) : ArgumentForm :=
  match settingOf? name, switchOf? name with
  | some named, _ => .setting named attached?
  | none, some named => .switch named attached?
  | none, none => .unknown

/-- Of letters behind a single dash only the first one counts, since both that
are known end the reading. A dash alone is a value. -/
def ofArgument (argument : String) : ArgumentForm :=
  match argument.toList with
  | ['-', '-'] => .terminator
  | '-' :: '-' :: text =>
      let (name, attached?) := splitValue text
      ofName name attached?
  | '-' :: 'h' :: _ => .switch .help none
  | '-' :: 'V' :: _ => .versionAsked
  | '-' :: _ :: _ => .unknown
  | _ => .plain argument

end ArgumentForm

namespace Arguments

def toJson (arguments : Arguments) : Json :=
  .ofMembers
    [("script", .string arguments.script), ("mode", .string arguments.mode.name),
      ("database", .ofOption .string arguments.database?),
      ("version", .ofOption .string arguments.version?), ("dump", .bool arguments.dump),
      ("log", .ofOption .string arguments.log?), ("verbose", .bool arguments.verbose)]

/-- What has been read and looked at. -/
structure Draft where
  script? : Option String
  mode? : Option CollectionMode
  database? : Option String
  version? : Option String
  dump : Bool
  log? : Option String
  verbose : Bool

/-- A value that has not been looked at, or an option that waits for one. -/
inductive Waiting where
  | nothing
  | valueOf (setting : Setting)
  | value (setting : Setting) (given : String)

structure Reading where
  draft : Draft
  waiting : Waiting

def start : Reading :=
  ⟨{ script? := none, mode? := none, database? := none, version? := none, dump := false,
     log? := none, verbose := false }, .nothing⟩

namespace Draft

def has (draft : Draft) : Setting → Bool
  | .script => draft.script?.isSome
  | .mode => draft.mode?.isSome
  | .database => draft.database?.isSome
  | .version => draft.version?.isSome
  | .log => draft.log?.isSome

/-- A path is not empty. -/
def path? (value : String) : Option String := if value.isEmpty then none else some value

/-- The draft with a value, where the value is one for its setting. -/
def hold? (draft : Draft) (setting : Setting) (value : String) : Option Draft :=
  match setting with
  | .script => (path? value).map fun path => { draft with script? := some path }
  | .mode => (CollectionMode.ofName? value).map fun mode => { draft with mode? := some mode }
  | .database => some { draft with database? := some value }
  | .version => some { draft with version? := some value }
  | .log => (path? value).map fun path => { draft with log? := some path }

/-- Nothing may be set twice. -/
def set (draft : Draft) (setting : Setting) (value : String) : Except ArgumentFault Draft :=
  if draft.has setting then .error .repeated
  else
    match draft.hold? setting value with
    | some draft => .ok draft
    | none => .error .badValue

def turnOn (draft : Draft) : Switch → Except ArgumentFault Draft
  | .dump => if draft.dump then .error .repeated else .ok { draft with dump := true }
  | .verbose => if draft.verbose then .error .repeated else .ok { draft with verbose := true }
  | .help => .error .helpAsked

def finish (draft : Draft) : Except ArgumentFault Arguments :=
  match draft.script? with
  | none => .error .scriptMissing
  | some script =>
      .ok
        { script
          mode := draft.mode?.getD default
          database? := draft.database?
          version? := draft.version?
          dump := draft.dump
          log? := draft.log?
          verbose := draft.verbose }

end Draft

namespace Reading

/-- Looks at what is waiting. -/
def settle (reading : Reading) : Except ArgumentFault Draft :=
  match reading.waiting with
  | .nothing => .ok reading.draft
  | .valueOf _ => .error .badValue
  | .value setting given => reading.draft.set setting given

def hasScript (reading : Reading) : Bool :=
  reading.draft.has .script ||
    match reading.waiting with
    | .value .script _ => true
    | _ => false

/-- An argument that stands for itself; there is one script. -/
def stand (reading : Reading) (value : String) : Except ArgumentFault Reading :=
  if reading.hasScript then .error .unknown
  else do
    let draft ← reading.settle
    .ok ⟨draft, .value .script value⟩

def takeSetting (reading : Reading) (setting : Setting) (attached? : Option String) :
    Except ArgumentFault Reading := do
  let draft ← reading.settle
  match attached? with
  | some value =>
      let draft ← draft.set setting value
      .ok ⟨draft, .nothing⟩
  | none => .ok ⟨draft, .valueOf setting⟩

def takeSwitch (reading : Reading) (switch : Switch) (attached? : Option String) :
    Except ArgumentFault Reading :=
  match attached? with
  | some _ => .error .needlessValue
  | none => do
      let draft ← reading.settle
      let draft ← draft.turnOn switch
      .ok ⟨draft, .nothing⟩

def takePlain (reading : Reading) (value : String) : Except ArgumentFault Reading :=
  match reading.waiting with
  | .valueOf setting => .ok ⟨reading.draft, .value setting value⟩
  | _ => reading.stand value

end Reading

def readFrom (reading : Reading) : List String → Except ArgumentFault Reading
  | [] => .ok reading
  | argument :: rest =>
      match ArgumentForm.ofArgument argument with
      | .terminator => rest.foldlM Reading.stand reading
      | .setting setting attached? => do
          readFrom (← reading.takeSetting setting attached?) rest
      | .switch switch attached? => do readFrom (← reading.takeSwitch switch attached?) rest
      | .versionAsked => do
          let _ ← reading.settle
          .error .versionAsked
      | .unknown => .error .unknown
      | .plain value => do readFrom (← reading.takePlain value) rest

/-- Reads the arguments that follow the name of the program. -/
def read (arguments : List String) : Except ArgumentFault Arguments := do
  let reading ← readFrom start arguments
  (← reading.settle).finish

end Arguments

end RecordSql
