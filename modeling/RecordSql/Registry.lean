import RecordSql.Handle.Basic

/-!
The registry through which databases are opened by name. It holds at most one
factory. An installed factory keeps one handle for every name it was asked for
and hands the same one out again; any other factory is a rule for the options
of a new handle.
-/

namespace RecordSql

structure OpenRequest where
  name : String
  version : String
  displayName : String
  estimatedSize : UInt64

/-- Handles stand in the order in which they were made, and are known by their
place in it. -/
abbrev HandleId := Nat

inductive Factory where
  | memoizing (mode : CollectionMode) (known : SortedMap String HandleId)
  | fresh (options : OpenRequest → Options)

structure Registry where
  factory? : Option Factory

/-- What opening by name leads to: a handle that was there, or a new one. -/
inductive Provision where
  | known (handle : HandleId)
  | make (options : Options)

namespace OpenRequest

def options (request : OpenRequest) (mode : CollectionMode) : Options where
  name := request.name
  version := request.version
  displayName := request.displayName
  estimatedSize := request.estimatedSize
  mode := mode
  collections := []

end OpenRequest

namespace Factory

def provide : Factory → OpenRequest → Provision
  | .memoizing mode known, request =>
      match known.get? request.name with
      | some handle => .known handle
      | none => .make (request.options mode)
  | .fresh options, request => .make (options request)

/-- Takes note of the handle that a request led to. -/
def remember : Factory → OpenRequest → HandleId → Factory
  | .memoizing mode known, request, handle =>
      .memoizing mode (known.insert request.name handle)
  | .fresh options, _, _ => .fresh options

end Factory

namespace Registry

def empty : Registry := ⟨none⟩

instance : Inhabited Registry := ⟨empty⟩

def hasFactory (registry : Registry) : Bool := registry.factory?.isSome

def install (registry : Registry) (mode : CollectionMode) : Bool × Registry :=
  if registry.hasFactory then (false, registry)
  else (true, ⟨some (.memoizing mode .empty)⟩)

def setFactory (_ : Registry) (options : OpenRequest → Options) : Registry :=
  ⟨some (.fresh options)⟩

def inspect (registry : Registry) : String :=
  "Registry \x7b open_database: " ++ (if registry.hasFactory then "true" else "false") ++ " \x7d"

end Registry

end RecordSql
