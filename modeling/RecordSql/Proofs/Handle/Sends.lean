import RecordSql.Handle.Basic

/-!
What a handle sends. Settling a handle and beginning a transaction on it
continue the journal by exchanges with the store and by nothing else, and the
only database that these open is the handle's own. Before a transaction begins
connections are opened and closed, and that is all.
-/

namespace RecordSql

/-- A journal is continued by permitted commands alone. -/
inductive Journal.Sends (permitted : Command → Prop) (start : Journal) : Journal → Prop where
  | nothing : Sends permitted start start
  | another {journal : Journal} (earlier : Sends permitted start journal) (command : Command)
      (allowed : permitted command) : Sends permitted start (journal.send command).2

namespace Journal.Sends

variable {permitted : Command → Prop} {start middle finish : Journal}

theorem trans (first : Sends permitted start middle) (second : Sends permitted middle finish) :
    Sends permitted start finish := by
  induction second with
  | nothing => exact first
  | another earlier command allowed ih => exact ih.another command allowed

theorem one (command : Command) (allowed : permitted command) :
    Sends permitted start (start.send command).2 := Sends.nothing.another command allowed

theorem mono {wider : Command → Prop} (sends : Sends permitted start finish)
    (widen : ∀ command, permitted command → wider command) : Sends wider start finish := by
  induction sends with
  | nothing => exact .nothing
  | another earlier command allowed ih => exact ih.another command (widen command allowed)

theorem events (sends : Sends permitted start finish) :
    ∃ exchanges : List Exchange, finish.events = start.events ++ exchanges.map .exchanged := by
  induction sends with
  | nothing => exact ⟨[], (List.append_nil _).symm⟩
  | @another journal earlier command allowed ih =>
    obtain ⟨exchanges, known⟩ := ih
    refine ⟨exchanges ++ [⟨command, (journal.store.step command).1⟩], ?_⟩
    rw [List.map_append, ← List.append_assoc, ← known]
    rfl

theorem keeps (sends : Sends permitted start finish) (Holds : Store → Prop)
    (step : ∀ store command, permitted command → Holds store → Holds (store.step command).2)
    (initially : Holds start.store) : Holds finish.store := by
  induction sends with
  | nothing => exact initially
  | another earlier command allowed ih => exact step _ command allowed ih

end Journal.Sends

/-- The commands with which a handle on a database reaches the store. -/
def Handle.MaySend (name : String) : Command → Prop
  | .openDatabase opened _ _ => opened = name
  | .close _ | .beginTransaction _ _ _ => True
  | _ => False

theorem Handle.MaySend.quiet {name : String} {command : Command}
    (allowed : Handle.MaySend name command) (operation : Operation) :
    command ≠ .inject operation := by
  rintro rfl
  cases allowed

/-- The commands with which a handle on a database comes to a connection. -/
def Handle.MayConnect (name : String) : Command → Prop
  | .openDatabase opened _ _ => opened = name
  | .close _ => True
  | _ => False

theorem Handle.MayConnect.maySend {name : String} {command : Command}
    (allowed : Handle.MayConnect name command) : Handle.MaySend name command := by
  cases command with
  | openDatabase => exact allowed
  | close => trivial
  | beginTransaction | request | commit | abort | inject | snapshot => cases allowed

/-- What an operation of a handle does to the handle and its journal. -/
structure Handle.Continues (handle : Handle) (journal : Journal)
    (after : Handle × Journal) : Prop where
  options : after.1.options = handle.options
  sends : journal.Sends (Handle.MaySend handle.options.name) after.2

/-- An operation that is over before anything begins. -/
structure Handle.Connects (handle : Handle) (journal : Journal)
    (after : Handle × Journal) : Prop where
  options : after.1.options = handle.options
  sends : journal.Sends (Handle.MayConnect handle.options.name) after.2

namespace Handle

variable {handle : Handle} {journal : Journal}

theorem Connects.refl (handle : Handle) (journal : Journal) :
    handle.Connects journal (handle, journal) := ⟨rfl, .nothing⟩

theorem Connects.trans {middle after : Handle × Journal}
    (first : handle.Connects journal middle)
    (second : middle.1.Connects middle.2 after) : handle.Connects journal after where
  options := second.options.trans first.options
  sends := by
    have sends := second.sends
    rw [first.options] at sends
    exact first.sends.trans sends

theorem Connects.move {after : Handle × Journal} (connected : handle.Connects journal after)
    (event : HandleEvent) : handle.Connects journal (after.1.move event, after.2) :=
  ⟨connected.options, connected.sends⟩

theorem Connects.continues {after : Handle × Journal}
    (connected : handle.Connects journal after) : handle.Continues journal after :=
  ⟨connected.options, connected.sends.mono fun _ => MayConnect.maySend⟩

theorem openConnection_connects (handle : Handle) (version? : Option UInt32)
    (names : List String) (journal : Journal) :
    handle.Connects journal (handle.openConnection version? names journal).2 := by
  constructor
  · simp only [openConnection]
    split <;> rfl
  · exact .one (.openDatabase handle.options.name version? fun _ _ =>
      .createMissing names .finish) rfl

theorem openFirst_connects (handle : Handle) (journal : Journal) :
    handle.Connects journal (handle.openFirst journal) := by
  rw [openFirst]
  cases Version.read handle.options.version with
  | error fault => exact (Connects.refl handle journal).move _
  | ok version? =>
    dsimp only
    have opened := handle.openConnection_connects version?
      handle.options.firstCollections journal
    generalize handle.openConnection version? handle.options.firstCollections journal = reply
      at opened ⊢
    obtain ⟨cause | connection, after⟩ := reply
    · exact opened.move _
    · exact opened.move _

theorem settle_connects (handle : Handle) (journal : Journal) :
    handle.Connects journal (handle.settle journal) := by
  rw [settle]
  split
  · exact .refl handle journal
  · exact handle.openFirst_connects journal

theorem fallBack_connects (handle : Handle) (journal : Journal) :
    handle.Connects journal (handle.fallBack journal) := by
  have opened := handle.openConnection_connects none [] journal
  rw [fallBack]
  generalize handle.openConnection none [] journal = reply at opened ⊢
  obtain ⟨cause | connection, after⟩ := reply
  · exact opened.move _
  · exact opened.move _

def closed (connection : Connection) (journal : Journal) : Journal :=
  (journal.send (.close connection.identifier)).2

/-- How a handle comes by more collections. While there are versions left it closes its
connection and opens the database again, and where this is refused it falls back. -/
inductive Grows (handle : Handle) (connection : Connection) (names : List String)
    (journal : Journal) : Except Failure Connection × Handle × Journal → Prop where
  | exhausted (last : connection.version = 4294967295) :
      Grows handle connection names journal
        (.error (.configuration (.versionsExhausted handle.options.name connection.version)),
          handle, journal)
  | refused (cause : StoreError) (after : Handle × Journal)
      (room : connection.version ≠ 4294967295)
      (opened : (handle.move .reopening).openConnection (some (connection.version + 1)) names
        (closed connection journal) = (.error cause, after)) :
      Grows handle connection names journal
        (.error (.transactionFailed cause), after.1.fallBack after.2)
  | grown (covering : Connection) (after : Handle × Journal)
      (room : connection.version ≠ 4294967295)
      (opened : (handle.move .reopening).openConnection (some (connection.version + 1)) names
        (closed connection journal) = (.ok covering, after)) :
      Grows handle connection names journal
        (.ok covering, after.1.move (.opened covering), after.2)

theorem grow_ends (handle : Handle) (connection : Connection) (names : List String)
    (journal : Journal) :
    handle.Grows connection names journal (handle.grow connection names journal) := by
  rw [grow]
  split
  case isTrue last => exact .exhausted last
  case isFalse room =>
    dsimp only
    generalize opened : (handle.move .reopening).openConnection (some (connection.version + 1))
      names (closed connection journal) = reply
    have asked := opened
    simp only [closed] at asked
    rw [asked]
    obtain ⟨cause | covering, after⟩ := reply
    · exact .refused cause after room opened
    · exact .grown covering after room opened

theorem grow_connects (handle : Handle) (connection : Connection) (names : List String)
    (journal : Journal) :
    handle.Connects journal (handle.grow connection names journal).2 := by
  have closes : handle.Connects journal (handle.move .reopening, closed connection journal) :=
    ⟨rfl, .one (.close connection.identifier) trivial⟩
  have opens := (handle.move .reopening).openConnection_connects (some (connection.version + 1))
    names (closed connection journal)
  have grows := handle.grow_ends connection names journal
  generalize handle.grow connection names journal = done at grows ⊢
  cases grows with
  | exhausted => exact .refl handle journal
  | refused cause after room opened =>
    rw [opened] at opens
    exact (closes.trans opens).trans (after.1.fallBack_connects after.2)
  | grown covering after room opened =>
    rw [opened] at opens
    exact (closes.trans opens).move _

theorem cover_connects (handle : Handle) (named : List String) (journal : Journal) :
    handle.Connects journal (handle.cover named journal).2 := by
  rw [cover]
  cases handle.connection with
  | error cause => exact .refl handle journal
  | ok connection =>
    dsimp only
    split
    · exact .refl handle journal
    · exact handle.grow_connects connection _ journal

theorem openConnection_continues (handle : Handle) (version? : Option UInt32)
    (names : List String) (journal : Journal) :
    handle.Continues journal (handle.openConnection version? names journal).2 :=
  (handle.openConnection_connects version? names journal).continues

theorem settle_continues (handle : Handle) (journal : Journal) :
    handle.Continues journal (handle.settle journal) := (handle.settle_connects journal).continues

theorem cover_continues (handle : Handle) (named : List String) (journal : Journal) :
    handle.Continues journal (handle.cover named journal).2 :=
  (handle.cover_connects named journal).continues

theorem beginTransaction_continues (handle : Handle) (named : List String)
    (journal : Journal) :
    handle.Continues journal (handle.beginTransaction named journal).2 := by
  have covered := handle.cover_continues named journal
  rw [beginTransaction]
  generalize handle.cover named journal = reply at covered ⊢
  obtain ⟨cause | connection, after⟩ := reply
  · exact covered
  · exact ⟨covered.options, covered.sends.another (.beginTransaction connection.identifier
      (after.1.scope connection) .readWrite) trivial⟩

end Handle

end RecordSql
