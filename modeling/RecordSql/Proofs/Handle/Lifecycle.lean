import RecordSql.Handle.Lifecycle
import RecordSql.Proofs.Transaction.Lifecycle

/-!
What the events of a handle amount to, in whatever order they come. The first failure of all is
final. Short of one, only the events since the handle last reopened count, that is since the last
reopening that found it ready: of their connections the first, and where there is none, of their
upgrades the last.
-/

namespace RecordSql

namespace HandleEvent

def cause? : HandleEvent → Option Failure
  | .failed cause => some cause
  | _ => none

def connection? : HandleEvent → Option Connection
  | .opened connection => some connection
  | _ => none

def versions? : HandleEvent → Option (UInt32 × UInt32)
  | .upgradeNeeded oldVersion newVersion => some (oldVersion, newVersion)
  | _ => none

end HandleEvent

namespace HandleState

open HandleEvent (cause? connection? versions?)

section Reports

/-- The state after reports of a failure, a connection or the versions of an upgrade. -/
def ofReports : Option Failure → Option Connection → Option (UInt32 × UInt32) → HandleState
  | some cause, _, _ => .errored cause
  | none, some connection, _ => .ready connection
  | none, none, some (oldVersion, newVersion) => .upgrading oldVersion newVersion
  | none, none, none => .opening

variable {failed? : Option Failure} {opened? : Option Connection}
  {asked? : Option (UInt32 × UInt32)}

theorem ofReports_eq_iff {state : HandleState} : ofReports failed? opened? asked? = state ↔
    match state with
    | .errored cause => failed? = some cause
    | .ready connection => failed? = none ∧ opened? = some connection
    | .upgrading oldVersion newVersion =>
        failed? = none ∧ opened? = none ∧ asked? = some (oldVersion, newVersion)
    | .opening => failed? = none ∧ opened? = none ∧ asked? = none := by
  rcases failed? with _ | cause
  · rcases opened? with _ | connection
    · rcases asked? with _ | ⟨oldVersion, newVersion⟩ <;> cases state <;> simp [ofReports]
    · cases state <;> simp [ofReports]
  · cases state <;> simp [ofReports]

/-- Of failures and of connections the first stays, of upgrades the last. This ends where a
reopening finds the handle ready. -/
theorem ofReports_after (event : HandleEvent)
    (kept : event = .reopening → ∀ connection,
      ofReports failed? opened? asked? ≠ .ready connection) :
    (ofReports failed? opened? asked?).after event =
      ofReports (failed?.or event.cause?) (opened?.or event.connection?)
        (event.versions?.or asked?) := by
  cases failed? with
  | some cause => cases event <;> rfl
  | none =>
    cases opened? with
    | some connection =>
      cases event with
      | reopening => exact absurd rfl (kept rfl connection)
      | upgradeNeeded | opened | failed => rfl
    | none => cases asked? <;> cases event <;> rfl

end Reports

variable {events recent before : List HandleEvent} {event : HandleEvent} {connection : Connection}

theorem afterAll_concat (state : HandleState) (events : List HandleEvent) (event : HandleEvent) :
    state.afterAll (events ++ [event]) = (state.afterAll events).after event := List.foldl_concat ..

/-- The events begin with these, and next comes a reopening that finds the handle ready. -/
structure Reopens (events before : List HandleEvent) : Prop where
  next : before ++ [.reopening] <+: events
  ready : ∃ connection, opening.afterAll before = .ready connection

/-- The events since the handle last reopened; all of them if it never has. -/
inductive Recent (events : List HandleEvent) : List HandleEvent → Prop
  | all (never : ∀ before, ¬Reopens events before) : Recent events events
  | since {before recent : List HandleEvent} (reopens : Reopens events before)
      (cut : events = before ++ .reopening :: recent)
      (last : ∀ other, Reopens events other → other <+: before) : Recent events recent

theorem not_reopens_nil (before : List HandleEvent) : ¬Reopens [] before := by
  intro reopens
  have none := List.prefix_nil.mp reopens.next
  exact List.append_ne_nil_of_right_ne_nil before (List.cons_ne_nil _ _) none

theorem reopens_concat_iff : Reopens (events ++ [event]) before ↔
    Reopens events before ∨ before = events ∧ event = .reopening ∧
      ∃ connection, opening.afterAll events = .ready connection := by
  constructor
  · rintro ⟨next, ready⟩
    rcases concat_prefix_concat_iff.mp next with ⟨rfl, rfl⟩ | inside
    · exact .inr ⟨rfl, rfl, ready⟩
    · exact .inl ⟨inside, ready⟩
  · rintro (⟨next, ready⟩ | ⟨rfl, rfl, ready⟩)
    · exact ⟨concat_prefix_concat_iff.mpr (.inr next), ready⟩
    · exact ⟨List.prefix_refl _, ready⟩

theorem Recent.carriedOn (since : Recent events recent)
    (kept : event = .reopening → ∀ connection, opening.afterAll events ≠ .ready connection) :
    Recent (events ++ [event]) (recent ++ [event]) := by
  have earlier : ∀ before, Reopens (events ++ [event]) before → Reopens events before := by
    intro before reopens
    rcases reopens_concat_iff.mp reopens with inside | ⟨-, same, connection, ready⟩
    · exact inside
    · exact absurd ready (kept same connection)
  cases since with
  | all never => exact .all fun before reopens => never before (earlier before reopens)
  | since reopens cut last =>
    subst cut
    exact .since (reopens_concat_iff.mpr (.inl reopens)) (List.append_assoc ..)
      fun other also => last other (earlier other also)

theorem Recent.anew (ready : opening.afterAll events = .ready connection) :
    Recent (events ++ [.reopening]) [] := by
  refine .since ⟨List.prefix_refl _, connection, ready⟩ rfl fun other reopens => ?_
  rcases reopens_concat_iff.mp reopens with ⟨next, -⟩ | ⟨rfl, -⟩
  · exact (List.prefix_append other _).trans next
  · exact List.prefix_refl _

theorem Recent.unique {other : List HandleEvent} (since : Recent events recent)
    (also : Recent events other) : other = recent := by
  cases since with
  | all never =>
    cases also with
    | all => rfl
    | since reopens => exact absurd reopens (never _)
  | since reopens cut last =>
    cases also with
    | all never => exact absurd reopens (never _)
    | since others otherCut otherLast =>
      -- Each of the two reopenings is the last, so neither comes after the other.
      have same := (last _ others).eq_of_length_le (otherLast _ reopens).length_le
      subst same
      exact List.cons_injective (List.append_cancel_left (otherCut.symm.trans cut))

/-- The state that events report, where these are the recent ones. -/
def reported (events recent : List HandleEvent) : HandleState :=
  ofReports (events.findSome? cause?) (recent.findSome? connection?)
    (recent.reverse.findSome? versions?)

theorem reported_concat (event : HandleEvent)
    (kept : event = .reopening → ∀ connection, reported events recent ≠ .ready connection) :
    reported (events ++ [event]) (recent ++ [event]) = (reported events recent).after event := by
  rw [reported, reported, ofReports_after event kept]
  simp only [List.findSome?_append, List.reverse_append, List.reverse_singleton,
    List.findSome?_singleton]

theorem reported_reopening (ready : reported events recent = .ready connection) :
    reported (events ++ [.reopening]) [] = .opening := by
  have calm := (ofReports_eq_iff.mp ready).1
  rw [reported, List.findSome?_append, calm]
  rfl

/-- By the last event: either the handle reopens at it, and nothing is recent any more, or it is
one more of the recent events. -/
theorem exists_recent (events : List HandleEvent) :
    ∃ recent, Recent events recent ∧ opening.afterAll events = reported events recent := by
  induction events using List.reverseRecOn with
  | nil => exact ⟨[], .all not_reopens_nil, rfl⟩
  | append_singleton events event ih =>
    obtain ⟨recent, since, same⟩ := ih
    rw [afterAll_concat]
    by_cases reopens : event = .reopening ∧
        ∃ connection, opening.afterAll events = .ready connection
    · obtain ⟨rfl, connection, ready⟩ := reopens
      refine ⟨[], .anew ready, ?_⟩
      rw [reported_reopening (same.symm.trans ready), ready]
      rfl
    · have kept : event = .reopening → ∀ connection,
          opening.afterAll events ≠ .ready connection :=
        fun last connection ready => reopens ⟨last, connection, ready⟩
      refine ⟨recent ++ [event], since.carriedOn kept, ?_⟩
      rw [same] at kept ⊢
      exact (reported_concat event kept).symm

/-- A handle is errored exactly by the first failure of its history. Where there is none, it is
ready exactly with the first connection of its recent events; where they hold none, it is upgrading
exactly between the versions of their last upgrade, and opening where they hold no upgrade. Every
history has its recent events, and no others. -/
theorem history_gives_state (events : List HandleEvent) :
    (∀ cause, opening.afterAll events = .errored cause ↔ events.findSome? cause? = some cause) ∧
    ∃ recent, (∀ other, Recent events other ↔ other = recent) ∧
      (∀ connection, opening.afterAll events = .ready connection ↔
        events.findSome? cause? = none ∧ recent.findSome? connection? = some connection) ∧
      (∀ oldVersion newVersion, opening.afterAll events = .upgrading oldVersion newVersion ↔
        events.findSome? cause? = none ∧ recent.findSome? connection? = none ∧
          recent.reverse.findSome? versions? = some (oldVersion, newVersion)) ∧
      (opening.afterAll events = .opening ↔
        events.findSome? cause? = none ∧ recent.findSome? connection? = none ∧
          recent.reverse.findSome? versions? = none) := by
  obtain ⟨recent, since, same⟩ := exists_recent events
  rw [same]
  refine ⟨fun cause => ofReports_eq_iff, recent, fun other => ⟨since.unique, ?_⟩,
    fun connection => ofReports_eq_iff, fun oldVersion newVersion => ofReports_eq_iff,
    ofReports_eq_iff⟩
  rintro rfl
  exact since

/-- What comes while the handle is ready is not remembered when it reopens. -/
example (first second : Connection) :
    opening.afterAll [.opened first, .upgradeNeeded 1 2, .opened second, .reopening] = .opening :=
  rfl

end HandleState

end RecordSql
