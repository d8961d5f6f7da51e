import RecordSql.Registry
import RecordSql.Transaction.Run

/-!
A session: one store, the handles opened on it and a registry. Handles are
shared by whoever knows them.
-/

namespace RecordSql

structure Session where
  store : Store
  handles : List Handle
  registry : Registry

namespace Session

def empty : Session := ⟨.empty, [], .empty⟩

instance : Inhabited Session := ⟨empty⟩

def handle? (session : Session) (identifier : HandleId) : Option Handle :=
  session.handles[identifier]?

def add (session : Session) (handle : Handle) : HandleId × Session :=
  (session.handles.length, { session with handles := session.handles ++ [handle] })

def install (session : Session) (mode : CollectionMode) : Bool × Session :=
  let (installed, registry) := session.registry.install mode
  (installed, { session with registry := registry })

def setFactory (session : Session) (options : OpenRequest → Options) : Session :=
  { session with registry := session.registry.setFactory options }

def openByName (session : Session) (request : OpenRequest) : Option HandleId × Session :=
  match session.registry.factory? with
  | none => (none, session)
  | some factory =>
      match factory.provide request with
      | .known identifier => (some identifier, session)
      | .make options =>
          let (identifier, session) := session.add (.new options)
          let registry : Registry := ⟨some (factory.remember request identifier)⟩
          (some identifier, { session with registry := registry })

/-- Sends a command to the store past all handles. -/
def send (session : Session) (command : Command) : command.Reply × Session :=
  let (reply, store) := session.store.step command
  (reply, { session with store := store })

/-- The session after a handle has worked on the store. -/
def update (session : Session) (identifier : HandleId) (handle : Handle) (store : Store) :
    Session :=
  { session with handles := session.handles.set identifier handle, store := store }

def settle (session : Session) (identifier : HandleId) : Session :=
  match session.handle? identifier with
  | none => session
  | some handle =>
      let (handle, journal) := handle.settle (.start session.store)
      session.update identifier handle journal.store

def run (session : Session) (schedule : Schedule) (program : List Statement)
    (identifier : HandleId) : Option Run × Session :=
  match session.handle? identifier with
  | none => (none, session)
  | some handle =>
      let done := Transaction.run schedule program handle session.store
      (some done, session.update identifier done.handle done.journal.store)

/-- Closes the connection of a handle that is ready. -/
def close? (session : Session) (identifier : HandleId) : Option Session :=
  match (session.handle? identifier).map Handle.state with
  | some (.ready connection) => some (session.send (.close connection.identifier)).2
  | _ => none

end Session

end RecordSql
