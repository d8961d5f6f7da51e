import Mathlib.Data.List.Induction
import Mathlib.Data.List.Infix
import RecordSql.Transaction.Lifecycle

/-!
What the events of a transaction amount to, in whatever order they come. The count of statements
in flight is a walk that stays at zero where it would go below, so it is zero exactly if, counted
from any point on, no more statements were issued than settled. A completion ends the transaction
at such a moment and no other; otherwise the first error does.
-/

namespace RecordSql

theorem concat_prefix_concat_iff {Item : Type} {before whole : List Item} {mark last : Item} :
    before ++ [mark] <+: whole ++ [last] ↔
      (before = whole ∧ mark = last) ∨ before ++ [mark] <+: whole := by
  rw [List.prefix_concat_iff]
  constructor
  · rintro (same | inside)
    · obtain ⟨rfl, ends⟩ := List.append_inj' same rfl
      exact .inl ⟨rfl, List.singleton_inj.mp ends⟩
    · exact .inr inside
  · rintro (⟨rfl, rfl⟩ | inside)
    · exact .inl rfl
    · exact .inr inside

namespace TransactionEvent

def isIssued : TransactionEvent → Bool
  | .statementIssued => true
  | _ => false

def isSettled : TransactionEvent → Bool
  | .statementSettled => true
  | _ => false

/-- The statements that are in flight after events; what settles in excess is not counted. -/
def outstanding (events : List TransactionEvent) : Nat :=
  events.foldl (fun inFlight event =>
    match event with
    | .statementIssued => inFlight + 1
    | .statementSettled => inFlight - 1
    | _ => inFlight) 0

/-- Counted from any point on, as many statements have settled as were issued, or more. -/
def Balanced (events : List TransactionEvent) : Prop :=
  ∀ left, left <:+ events → left.countP isIssued ≤ left.countP isSettled

variable {events early late before after : List TransactionEvent}

theorem outstanding_concat (events : List TransactionEvent) (event : TransactionEvent) :
    outstanding (events ++ [event]) =
      match event with
      | .statementIssued => outstanding events + 1
      | .statementSettled => outstanding events - 1
      | _ => outstanding events := by
  rw [outstanding, List.foldl_concat]
  rfl

theorem countP_concat (holds : TransactionEvent → Bool) (events : List TransactionEvent)
    (event : TransactionEvent) :
    (events ++ [event]).countP holds = events.countP holds + if holds event then 1 else 0 := by
  rw [List.countP_append, List.countP_singleton]

/-- From no point on were more statements issued beyond those settled than are in flight. -/
theorem issued_le (events : List TransactionEvent) : ∀ left, left <:+ events →
    left.countP isIssued ≤ left.countP isSettled + outstanding events := by
  induction events using List.reverseRecOn with
  | nil =>
    intro left ends
    rw [List.suffix_nil.mp ends]
    exact Nat.zero_le _
  | append_singleton events event ih =>
    intro left ends
    rcases List.suffix_concat_iff.mp ends with rfl | ⟨earlier, rfl, inside⟩
    · exact Nat.zero_le _
    · have before := ih earlier inside
      rw [countP_concat, countP_concat, outstanding_concat]
      cases event <;> simp only [isIssued, isSettled] <;> simp <;> omega

/-- Those that are in flight were issued, and not made up for, since the count was last zero. -/
theorem exists_issued_eq (events : List TransactionEvent) : ∃ left, left <:+ events ∧
    left.countP isIssued = left.countP isSettled + outstanding events := by
  induction events using List.reverseRecOn with
  | nil => exact ⟨[], List.suffix_refl _, rfl⟩
  | append_singleton events event ih =>
    obtain ⟨left, ends, same⟩ := ih
    have longer : left ++ [event] <:+ events ++ [event] :=
      List.suffix_concat_iff.mpr (.inr ⟨left, rfl, ends⟩)
    have counts := outstanding_concat events event
    by_cases excess : event = .statementSettled ∧ outstanding events = 0
    · -- Nothing was left that could settle, so the count starts anew.
      obtain ⟨rfl, none⟩ := excess
      refine ⟨[], List.nil_suffix, ?_⟩
      rw [counts, none]
      rfl
    · refine ⟨left ++ [event], longer, ?_⟩
      rw [countP_concat, countP_concat, counts]
      cases event <;> simp [isIssued, isSettled] at excess ⊢ <;> omega

theorem outstanding_eq_zero_iff (events : List TransactionEvent) :
    outstanding events = 0 ↔ Balanced events := by
  constructor
  · intro none left ends
    have least := issued_le events left ends
    rwa [none] at least
  · intro balanced
    obtain ⟨left, ends, same⟩ := exists_issued_eq events
    have fair := balanced left ends
    omega

end TransactionEvent

namespace TransactionState

open TransactionEvent (Balanced outstanding)

variable {events early late before after : List TransactionEvent} {event : TransactionEvent}
  {state : TransactionState} {cause : Failure}

theorem afterAll_append (state : TransactionState) (early late : List TransactionEvent) :
    state.afterAll (early ++ late) = (state.afterAll early).afterAll late := List.foldl_append

theorem afterAll_concat (state : TransactionState) (events : List TransactionEvent)
    (event : TransactionEvent) :
    state.afterAll (events ++ [event]) = (state.afterAll events).after event := List.foldl_concat ..

theorem afterAll_committed (events : List TransactionEvent) :
    committed.afterAll events = .committed := by
  induction events with
  | nil => rfl
  | cons event rest ih => exact ih

theorem afterAll_failed (cause : Failure) (events : List TransactionEvent) :
    (failed cause).afterAll events = .failed cause := by
  induction events with
  | nil => rfl
  | cons event rest ih => exact ih

theorem after_setupReturned (fits : (state.after? .setupReturned).isSome) :
    state.after .setupReturned = .active 0 := by
  cases state with
  | pending => rfl
  | active | committed | failed => cases fits

/-- A completion after these events finds the setup returned and nothing in flight. -/
def Concludes (before : List TransactionEvent) : Prop :=
  ∃ early late, before = early ++ .setupReturned :: late ∧ .setupReturned ∉ early ∧ Balanced late

/-- A completion finds nothing in flight before there was any error. -/
def Commits (events : List TransactionEvent) : Prop :=
  ∃ before, before ++ [.completed] <+: events ∧ Concludes before ∧ ∀ cause, .errored cause ∉ before

/-- The first error comes with this cause, and no completion before it finds nothing in flight. -/
def Fails (events : List TransactionEvent) (cause : Failure) : Prop :=
  ∃ before, before ++ [.errored cause] <+: events ∧ (∀ other, .errored other ∉ before) ∧
    ∀ early, early ++ [.completed] <+: before → ¬Concludes early

/-- What the events so far amount to. -/
inductive Stands (events : List TransactionEvent) : TransactionState → Prop
  | pending (unreturned : .setupReturned ∉ events) (calm : ∀ cause, .errored cause ∉ events) :
      Stands events .pending
  | active {early late : List TransactionEvent}
      (returned : events = early ++ .setupReturned :: late)
      (first : .setupReturned ∉ early) (calm : ∀ cause, .errored cause ∉ events)
      (unconcluded : ∀ before, before ++ [.completed] <+: events → ¬Concludes before) :
      Stands events (.active (outstanding late))
  | committed (commits : Commits events) : Stands events .committed
  | failed {cause : Failure} (fails : Fails events cause) : Stands events (.failed cause)

theorem Commits.later (commits : Commits events) (more : List TransactionEvent) :
    Commits (events ++ more) := by
  obtain ⟨before, here, concludes, calm⟩ := commits
  exact ⟨before, here.trans (List.prefix_append events more), concludes, calm⟩

theorem Fails.later (fails : Fails events cause) (more : List TransactionEvent) :
    Fails (events ++ more) cause := by
  obtain ⟨before, here, first, unconcluded⟩ := fails
  exact ⟨before, here.trans (List.prefix_append events more), first, unconcluded⟩

theorem Concludes.returned (concludes : Concludes before) : .setupReturned ∈ before := by
  obtain ⟨early, late, rfl, -⟩ := concludes
  exact List.mem_append_right early List.mem_cons_self

/-- The setup returns for the first time at one point only. -/
theorem concludes_iff (first : .setupReturned ∉ early) :
    Concludes (early ++ .setupReturned :: late) ↔ outstanding late = 0 := by
  rw [TransactionEvent.outstanding_eq_zero_iff]
  constructor
  · rintro ⟨other, rest, same, also, balanced⟩
    -- Two cuts at a return of the setup that have none in front of them are one cut.
    rcases List.append_eq_append_iff.mp same with
      ⟨_ | ⟨mark, more⟩, rfl, tail⟩ | ⟨_ | ⟨mark, more⟩, rfl, tail⟩
    · cases tail
      exact balanced
    · cases tail
      exact absurd (List.mem_append_right early List.mem_cons_self) also
    · cases tail
      exact balanced
    · cases tail
      exact absurd (List.mem_append_right other List.mem_cons_self) first
  · exact fun balanced => ⟨early, late, rfl, first, balanced⟩

theorem calm_concat (calm : ∀ cause, .errored cause ∉ events)
    (other : ∀ cause, event ≠ .errored cause) : ∀ cause, .errored cause ∉ events ++ [event] := by
  intro cause member
  rcases List.mem_append.mp member with before | last
  · exact calm cause before
  · exact other cause (List.mem_singleton.mp last).symm

/-- Between the setup and the end every event but an error and a timely completion leaves the
transaction active, with the count of those in flight brought forward. -/
theorem Stands.carriedOn (first : .setupReturned ∉ early)
    (calm : ∀ cause, .errored cause ∉ early ++ .setupReturned :: late)
    (unconcluded : ∀ before, before ++ [.completed] <+: early ++ .setupReturned :: late →
      ¬Concludes before) (other : ∀ cause, event ≠ .errored cause)
    (untimely : event = .completed → outstanding late ≠ 0) :
    Stands ((early ++ .setupReturned :: late) ++ [event])
      (.active (outstanding (late ++ [event]))) := by
  refine .active (List.append_assoc ..) first (calm_concat calm other) fun before here => ?_
  rcases concat_prefix_concat_iff.mp here with ⟨rfl, rfl⟩ | inside
  · rw [concludes_iff first]
    exact untimely rfl
  · exact unconcluded before inside

/-- By the state: an event that is ignored leaves what the events amount to as it is. -/
theorem Stands.step (stands : Stands events state) (event : TransactionEvent) :
    Stands (events ++ [event]) (state.after event) := by
  cases stands with
  | committed commits => exact .committed (commits.later _)
  | failed fails => exact .failed (fails.later _)
  | pending unreturned calm =>
    have unconcluded : ∀ before, before ++ [.completed] <+: events → ¬Concludes before := by
      intro before here concludes
      exact unreturned (here.subset (List.mem_append_left _ concludes.returned))
    cases event with
    | errored cause => exact .failed ⟨events, List.prefix_refl _, calm, unconcluded⟩
    | setupReturned =>
      have started : Stands (events ++ .setupReturned :: []) (.active (outstanding [])) := by
        refine .active rfl unreturned (calm_concat calm (by rintro _ ⟨⟩)) fun before here => ?_
        rcases concat_prefix_concat_iff.mp here with ⟨-, impossible⟩ | inside
        · cases impossible
        · exact unconcluded before inside
      exact started
    | statementIssued | statementSettled | completed =>
      exact .pending (by simpa using unreturned) (calm_concat calm (by rintro _ ⟨⟩))
  | @active early late returned first calm unconcluded =>
    subst returned
    have carriedOn := @Stands.carriedOn early late event first calm unconcluded
    have counts := TransactionEvent.outstanding_concat late event
    cases event with
    | errored cause => exact .failed ⟨_, List.prefix_refl _, calm, unconcluded⟩
    | completed =>
      cases inFlight : outstanding late with
      | zero =>
        exact .committed ⟨_, List.prefix_refl _, (concludes_iff first).mpr inFlight, calm⟩
      | succ others =>
        have kept := carriedOn (by rintro _ ⟨⟩) (by simp [inFlight])
        rw [counts, inFlight] at kept
        exact kept
    | statementSettled =>
      have kept := carriedOn (by rintro _ ⟨⟩) (by rintro ⟨⟩)
      rw [counts] at kept
      cases inFlight : outstanding late with
      | zero | succ others =>
        rw [inFlight] at kept
        exact kept
    | setupReturned | statementIssued =>
      have kept := carriedOn (by rintro _ ⟨⟩) (by rintro ⟨⟩)
      rw [counts] at kept
      exact kept

theorem afterAll_stands (events : List TransactionEvent) :
    Stands events (pending.afterAll events) := by
  induction events using List.reverseRecOn with
  | nil => exact .pending List.not_mem_nil fun _ => List.not_mem_nil
  | append_singleton events event ih =>
    rw [afterAll_concat]
    exact ih.step event

/-- Where the mark stands decides, and what comes later changes nothing. -/
theorem afterAll_of_prefix {mark : TransactionEvent} (here : before ++ [mark] <+: events) :
    ∃ rest, pending.afterAll events = ((pending.afterAll before).after mark).afterAll rest := by
  obtain ⟨rest, rfl⟩ := here
  exact ⟨rest, by rw [afterAll_append, afterAll_concat]⟩

theorem Commits.afterAll_eq (commits : Commits events) : pending.afterAll events = .committed := by
  obtain ⟨before, here, concludes, calm⟩ := commits
  obtain ⟨rest, whole⟩ := afterAll_of_prefix here
  have stands := afterAll_stands before
  rw [whole]
  generalize pending.afterAll before = state at stands ⊢
  -- By the state that the completion meets: if it is over already, it has been committed before.
  cases stands with
  | pending unreturned => exact absurd concludes.returned unreturned
  | active returned first =>
    subst returned
    rw [(concludes_iff first).mp concludes]
    exact afterAll_committed rest
  | committed => exact afterAll_committed rest
  | failed fails =>
    obtain ⟨earlier, inside, -⟩ := fails
    exact absurd (inside.subset (List.mem_append_right _ List.mem_cons_self)) (calm _)

theorem Fails.afterAll_eq (fails : Fails events cause) :
    pending.afterAll events = .failed cause := by
  obtain ⟨before, here, first, unconcluded⟩ := fails
  obtain ⟨rest, whole⟩ := afterAll_of_prefix here
  have stands := afterAll_stands before
  rw [whole]
  generalize pending.afterAll before = state at stands ⊢
  cases stands with
  | pending | active => exact afterAll_failed cause rest
  | committed commits =>
    obtain ⟨earlier, inside, concludes, -⟩ := commits
    exact absurd concludes (unconcluded earlier inside)
  | failed fails =>
    obtain ⟨earlier, inside, -⟩ := fails
    exact absurd (inside.subset (List.mem_append_right _ List.mem_cons_self)) (first _)

/-- A transaction is committed exactly by a completion that finds its setup returned and nothing
in flight, before there was any error, and it is failed exactly by an error before any such
completion. Either way it stays as it is, whatever comes later. -/
theorem history_decides (events : List TransactionEvent) :
    (pending.afterAll events = .committed ↔ Commits events) ∧
    (∀ cause, pending.afterAll events = .failed cause ↔ Fails events cause) ∧
    committed.afterAll events = .committed ∧
    ∀ cause, (failed cause).afterAll events = .failed cause := by
  have stands := afterAll_stands events
  refine ⟨⟨fun same => ?_, Commits.afterAll_eq⟩, fun cause => ⟨fun same => ?_, Fails.afterAll_eq⟩,
    afterAll_committed events, fun cause => afterAll_failed cause events⟩
  · rw [same] at stands
    cases stands with
    | committed commits => exact commits
  · rw [same] at stands
    cases stands with
    | failed fails => exact fails

/-- A settlement that nothing was issued for makes up for nothing that is issued later. -/
example : pending.afterAll [.setupReturned, .statementSettled, .statementIssued, .completed] =
    .active 1 := rfl

end TransactionState

end RecordSql
