import Mathlib.Data.Finset.Card
import Mathlib.Data.Finset.Insert
import RecordSql.Proofs.SortedMap
import RecordSql.Proofs.Session.Inert

/-!
Opening by name. A factory is installed only where there is none. As long as nobody puts another
one in its place it has one handle for every name that it was asked for, made at the first call
with the name and as that call wanted it, whatever becomes of its handles meanwhile.
-/

namespace RecordSql

/-- A call of the registry and the handle that it was given, if any. -/
abbrev Provided := OpenRequest × Option HandleId

namespace Session

/-- The call of the registry that this is, with its answer. -/
def providedIn (session : Session) : Happening → List Provided
  | .provides request => [(request, (session.openByName request).1)]
  | _ => []

/-- All calls of the registry, in order. -/
def provided (session : Session) : List Happening → List Provided
  | [] => []
  | happening :: rest =>
      session.providedIn happening ++ (session.undergo happening).provided rest

/-- The places of the handles that are new after a call of the registry. -/
def createdIn (session : Session) : Happening → List HandleId
  | .provides request =>
      let later := (session.openByName request).2
      List.range' session.handles.length (later.handles.length - session.handles.length)
  | _ => []

/-- All handles that the registry has made. -/
def created (session : Session) : List Happening → List HandleId
  | [] => []
  | happening :: rest =>
      session.createdIn happening ++ (session.undergo happening).created rest

variable {session : Session} {happening : Happening} {identifier : HandleId} {handle : Handle}
  {mode : CollectionMode}

theorem perform_registry (session : Session) (act : Act) :
    (session.perform act).registry = session.registry := by
  cases act with
  | opens | sends => rfl
  | settles identifier | begins named identifier | runs schedule program identifier =>
    simp only [perform, settle, begin, run]
    split <;> rfl

/-- A slot that is taken stays as it is, but for the calls of its factory and a replacement. -/
theorem undergo_registry {factory : Factory} (taken : session.registry.factory? = some factory)
    (configures : ∀ options, happening ≠ .configures options)
    (provides : ∀ request, happening ≠ .provides request) :
    (session.undergo happening).registry = session.registry := by
  cases happening with
  | acts act => exact session.perform_registry act
  | sends command => rfl
  | closes position =>
    simp only [undergo, close?]
    split <;> rfl
  | meets position event =>
    simp only [undergo]
    split <;> rfl
  | installs mode => simp [undergo, install, Registry.install, Registry.hasFactory, taken]
  | configures options => exact absurd rfl (configures options)
  | provides request => exact absurd rfl (provides request)

theorem add_handle?_self (session : Session) (new : Handle) :
    (session.add new).2.handle? session.handles.length = some new :=
  List.getElem?_concat_length

/-- A handle keeps its place and its options, whatever happens. -/
theorem undergo_handle? (found : session.handle? identifier = some handle)
    (happening : Happening) : ∃ later,
      (session.undergo happening).handle? identifier = some later ∧
        later.options = handle.options := by
  obtain ⟨later, present, becomes⟩ := undergo_becomes found happening
  refine ⟨later, present, ?_⟩
  cases becomes with
  | stays | moves => rfl
  | works => exact (Act.work_steps _ handle session.store).options

/-- The first call with this name. -/
def firstCall? (calls : List Provided) (name : String) : Option Provided :=
  calls.find? (·.1.name = name)

/-- The names that the registry was asked for. -/
def askedNames (calls : List Provided) : List String := calls.map (·.1.name)

/-- The installed factory knows the handle of every name that it was asked for, which is as the
first call with the name wanted it. -/
structure Memoizes (mode : CollectionMode) (session : Session) (calls : List Provided)
    (created : List HandleId) (known : SortedMap String HandleId) : Prop where
  factory : session.registry.factory? = some (.memoizing mode known)
  answered : ∀ call ∈ calls, ∃ identifier, call.2 = some identifier ∧
    known.get? call.1.name = some identifier
  first : ∀ name identifier, known.get? name = some identifier → ∃ request handle,
    firstCall? calls name = some (request, some identifier) ∧
      session.handle? identifier = some handle ∧ handle.options = request.options mode
  made : ∀ identifier, identifier ∈ created ↔ ∃ name, known.get? name = some identifier
  distinct : created.Nodup
  counted : created.length = (askedNames calls).toFinset.card

variable {calls : List Provided} {created : List HandleId} {known : SortedMap String HandleId}
  {request : OpenRequest}

theorem firstCall?_name {name : String} {call : Provided}
    (found : firstCall? calls name = some call) : call.1.name = name := by
  simpa using List.find?_some found

theorem firstCall?_append {name : String} {call : Provided}
    (found : firstCall? calls name = some call) (more : List Provided) :
    firstCall? (calls ++ more) name = some call := by
  rw [firstCall?] at found
  rw [firstCall?, List.find?_append, found, Option.some_or]

theorem askedNames_concat (calls : List Provided) (call : Provided) :
    (askedNames (calls ++ [call])).toFinset =
      insert call.1.name (askedNames calls).toFinset := by
  ext name
  simp [askedNames]

/-- One handle is not given out for two names, for its options tell its name. -/
theorem Memoizes.injective (memoizes : Memoizes mode session calls created known)
    {name other : String} (found : known.get? name = some identifier)
    (also : known.get? other = some identifier) : name = other := by
  obtain ⟨request, handle, call, present, options⟩ := memoizes.first name identifier found
  obtain ⟨request', handle', call', present', options'⟩ := memoizes.first other identifier also
  cases present.symm.trans present'
  rw [← firstCall?_name call, ← firstCall?_name call']
  exact congrArg Options.name (options.symm.trans options')

theorem Memoizes.asked (memoizes : Memoizes mode session calls created known) {name : String} :
    name ∈ askedNames calls ↔ ∃ identifier, known.get? name = some identifier := by
  constructor
  · intro member
    obtain ⟨call, asked, rfl⟩ := List.mem_map.mp member
    obtain ⟨identifier, -, found⟩ := memoizes.answered call asked
    exact ⟨identifier, found⟩
  · rintro ⟨identifier, found⟩
    obtain ⟨request, handle, call, -⟩ := memoizes.first name identifier found
    have asked := List.mem_map_of_mem (f := fun each : Provided => each.1.name)
      (List.mem_of_find?_eq_some call)
    rwa [firstCall?_name call] at asked

/-- Whatever happens beside the calls of the factory. -/
theorem Memoizes.beside {later : Session} (memoizes : Memoizes mode session calls created known)
    (slot : later.registry = session.registry)
    (keeps : ∀ identifier handle, session.handle? identifier = some handle →
      ∃ after, later.handle? identifier = some after ∧ after.options = handle.options) :
    Memoizes mode later calls created known where
  factory := slot ▸ memoizes.factory
  answered := memoizes.answered
  first := by
    intro name identifier found
    obtain ⟨request, handle, call, present, options⟩ := memoizes.first name identifier found
    obtain ⟨after, there, same⟩ := keeps identifier handle present
    exact ⟨request, after, call, there, same.trans options⟩
  made := memoizes.made
  distinct := memoizes.distinct
  counted := memoizes.counted

theorem openByName_known (factory : session.registry.factory? = some (.memoizing mode known))
    (found : known.get? request.name = some identifier) :
    session.openByName request = (some identifier, session) := by
  simp only [openByName, factory, Factory.provide, found]

theorem openByName_new (factory : session.registry.factory? = some (.memoizing mode known))
    (absent : known.get? request.name = none) :
    session.openByName request = (some session.handles.length,
      { (session.add (.new (request.options mode))).2 with
        registry := ⟨some (.memoizing mode
          (known.insert request.name session.handles.length))⟩ }) := by
  simp only [openByName, factory, Factory.provide, absent]
  rfl

/-- A name that was asked for before gets the handle that it got then. -/
theorem Memoizes.again (memoizes : Memoizes mode session calls created known)
    (found : known.get? request.name = some identifier) :
    Memoizes mode session (calls ++ [(request, some identifier)]) created known where
  factory := memoizes.factory
  answered := by
    intro call member
    rcases List.mem_append.mp member with before | last
    · exact memoizes.answered call before
    · rw [List.mem_singleton.mp last]
      exact ⟨identifier, rfl, found⟩
  first := by
    intro name other held
    obtain ⟨first, handle, call, rest⟩ := memoizes.first name other held
    exact ⟨first, handle, firstCall?_append call _, rest⟩
  made := memoizes.made
  distinct := memoizes.distinct
  counted := by
    have before : request.name ∈ (askedNames calls).toFinset :=
      List.mem_toFinset.mpr (memoizes.asked.mpr ⟨identifier, found⟩)
    rw [memoizes.counted, askedNames_concat, Finset.insert_eq_of_mem before]

/-- A new name gets a new handle, as the call wants it. -/
theorem Memoizes.anew (memoizes : Memoizes mode session calls created known)
    (absent : known.get? request.name = none) :
    Memoizes mode (session.openByName request).2
      (calls ++ [(request, some session.handles.length)]) (created ++ [session.handles.length])
      (known.insert request.name session.handles.length) := by
  have unasked : request.name ∉ askedNames calls := by
    intro asked
    obtain ⟨identifier, found⟩ := memoizes.asked.mp asked
    cases absent.symm.trans found
  -- Every place in the table is that of a handle, and the new one stands behind them all.
  have fresh : ∀ name, known.get? name ≠ some session.handles.length := by
    intro name found
    obtain ⟨-, handle, -, present, -⟩ := memoizes.first name _ found
    exact absurd (List.getElem?_eq_some_iff.mp present).1 (Nat.lt_irrefl _)
  rw [openByName_new memoizes.factory absent]
  constructor
  case factory => rfl
  case answered =>
    intro call member
    rcases List.mem_append.mp member with before | last
    · obtain ⟨identifier, told, found⟩ := memoizes.answered call before
      have differ : call.1.name ≠ request.name := by
        intro same
        cases absent.symm.trans (same ▸ found)
      exact ⟨identifier, told, (known.get?_insert_of_ne differ _).trans found⟩
    · rw [List.mem_singleton.mp last]
      exact ⟨_, rfl, known.get?_insert_self _ _⟩
  case first =>
    intro name identifier found
    by_cases same : name = request.name
    · subst same
      rw [known.get?_insert_self] at found
      cases found
      refine ⟨request, _, ?_, session.add_handle?_self _, rfl⟩
      have before : firstCall? calls request.name = none := by
        apply List.find?_eq_none.mpr
        intro call member named
        exact unasked (List.mem_map.mpr ⟨call, member, by simpa using named⟩)
      rw [firstCall?] at before
      rw [firstCall?, List.find?_append, before]
      simp
    · rw [known.get?_insert_of_ne same] at found
      obtain ⟨first, handle, call, present, options⟩ := memoizes.first name identifier found
      exact ⟨first, handle, firstCall?_append call _, add_handle? present _, options⟩
  case made =>
    intro identifier
    rw [List.mem_append, memoizes.made, List.mem_singleton]
    constructor
    · rintro (⟨name, found⟩ | rfl)
      · refine ⟨name, (known.get?_insert_of_ne ?_ _).trans found⟩
        rintro rfl
        cases absent.symm.trans found
      · exact ⟨_, known.get?_insert_self _ _⟩
    · rintro ⟨name, found⟩
      rcases SortedMap.get?_of_insert found with ⟨-, rfl⟩ | before
      · exact .inr rfl
      · exact .inl ⟨name, before⟩
  case distinct =>
    refine List.nodup_append.mpr ⟨memoizes.distinct, List.nodup_singleton _, ?_⟩
    intro identifier before other last same
    obtain ⟨name, found⟩ := (memoizes.made identifier).mp before
    rw [same, List.mem_singleton.mp last] at found
    exact fresh name found
  case counted =>
    rw [askedNames_concat, Finset.card_insert_of_notMem (by simpa using unasked),
      List.length_append, memoizes.counted]
    rfl

theorem createdIn_known (factory : session.registry.factory? = some (.memoizing mode known))
    (found : known.get? request.name = some identifier) :
    session.createdIn (.provides request) = [] := by
  rw [createdIn, openByName_known factory found, Nat.sub_self]
  rfl

theorem createdIn_new (factory : session.registry.factory? = some (.memoizing mode known))
    (absent : known.get? request.name = none) :
    session.createdIn (.provides request) = [session.handles.length] := by
  simp [createdIn, openByName_new factory absent, add]

/-- Only the calls of the registry count as such. -/
theorem uncalled (session : Session) (provides : ∀ request, happening ≠ .provides request) :
    session.providedIn happening = [] ∧ session.createdIn happening = [] := by
  cases happening with
  | provides request => exact absurd rfl (provides request)
  | acts | sends | closes | meets | installs | configures => exact ⟨rfl, rfl⟩

theorem Memoizes.provides (memoizes : Memoizes mode session calls created known)
    (request : OpenRequest) : ∃ known,
      Memoizes mode (session.undergo (.provides request))
        (calls ++ session.providedIn (.provides request))
        (created ++ session.createdIn (.provides request)) known := by
  simp only [providedIn]
  cases found : known.get? request.name with
  | some identifier =>
    rw [createdIn_known memoizes.factory found, List.append_nil, Session.undergo,
      openByName_known memoizes.factory found]
    exact ⟨known, memoizes.again found⟩
  | none =>
    have anew := memoizes.anew found
    rw [createdIn_new memoizes.factory found]
    rw [openByName_new memoizes.factory found] at anew ⊢
    rw [Session.undergo, openByName_new memoizes.factory found]
    exact ⟨_, anew⟩

theorem Memoizes.undergo (memoizes : Memoizes mode session calls created known)
    (happening : Happening) (kept : ∀ options, happening ≠ .configures options) : ∃ known,
      Memoizes mode (session.undergo happening) (calls ++ session.providedIn happening)
        (created ++ session.createdIn happening) known := by
  -- Nothing but a call reaches the table; the handles change, but not in what they were made for.
  by_cases called : ∃ request, happening = .provides request
  · obtain ⟨request, rfl⟩ := called
    exact memoizes.provides request
  · have provides : ∀ request, happening ≠ .provides request :=
      fun request same => called ⟨request, same⟩
    obtain ⟨noCall, noHandle⟩ := session.uncalled provides
    rw [noCall, noHandle, List.append_nil, List.append_nil]
    exact ⟨known, memoizes.beside (undergo_registry memoizes.factory kept provides)
      fun _ _ present => undergo_handle? present happening⟩

theorem Memoizes.undergoAll (happenings : List Happening) {session : Session}
    {calls : List Provided} {created : List HandleId} {known : SortedMap String HandleId}
    (memoizes : Memoizes mode session calls created known)
    (kept : ∀ options, .configures options ∉ happenings) : ∃ known,
      Memoizes mode (session.undergoAll happenings) (calls ++ session.provided happenings)
        (created ++ session.created happenings) known := by
  induction happenings generalizing session calls created known with
  | nil =>
    rw [provided, Session.created, List.append_nil, List.append_nil]
    exact ⟨known, memoizes⟩
  | cons happening rest ih =>
    obtain ⟨next, stepped⟩ := memoizes.undergo happening
      fun options same => kept options (same ▸ List.mem_cons_self)
    have further := ih stepped fun options member =>
      kept options (List.mem_cons_of_mem happening member)
    rw [List.append_assoc, List.append_assoc] at further
    exact further

end Session

end RecordSql
