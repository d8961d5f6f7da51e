import RecordSql.Statement.Call

/-!
What planning a statement settles before the store is asked: a statement that
cannot be planned fails without the store, and a plan asks for one collection,
which in the fixed mode is always the same.
-/

namespace RecordSql

theorem bind_error {First Next : Type} {first : Except Failure First}
    {rest : First → Except Failure Next} {cause : Failure}
    (failed : (first >>= rest) = .error cause) :
    first = .error cause ∨ ∃ value, first = .ok value ∧ rest value = .error cause := by
  cases first with
  | error other =>
    cases failed
    exact .inl rfl
  | ok value => exact .inr ⟨value, rfl, failed⟩

theorem bind_ok {First Next : Type} {first : Except Failure First}
    {rest : First → Except Failure Next} {answer : Next}
    (success : (first >>= rest) = .ok answer) :
    ∃ value, first = .ok value ∧ rest value = .ok answer := by
  cases first with
  | error cause => cases success
  | ok value => exact ⟨value, rfl, success⟩

theorem Key.ofValue_error {kind : StatementKind} {value? : Option Value} {cause : Failure}
    (failed : Key.ofValue kind value? = .error cause) : cause.cause? = none := by
  simp only [Key.ofValue] at failed
  split at failed
  · cases failed; rfl
  · cases failed; rfl
  · cases failed
  · split at failed
    · cases failed
    · cases failed; rfl
  · split at failed
    · split at failed
      · cases failed
      · cases failed; rfl
    · cases failed; rfl
  · cases failed; rfl

theorem resolveCollection_error_eq {mode : CollectionMode} {sql : List Char} {cause : Failure}
    (failed : resolveCollection mode sql = .error cause) :
    cause = .missingTable (String.ofList (Text.trim sql)) := by
  cases mode with
  | fixed => cases failed
  | perStatement =>
    simp only [resolveCollection] at failed
    split at failed
    · cases failed
    · cases failed
      rfl

theorem resolveCollection_error {mode : CollectionMode} {sql : List Char} {cause : Failure}
    (failed : resolveCollection mode sql = .error cause) : cause.cause? = none := by
  rw [resolveCollection_error_eq failed]
  rfl

/-- The collection is looked for first, so its failure comes first as well. -/
theorem planOf_error {mode : CollectionMode} {sql : List Char} {params : List Value}
    {cause : Failure} (failed : planOf mode sql params = .error cause) :
    cause.cause? = none := by
  simp only [planOf] at failed
  split at failed
  · cases failed
    rfl
  all_goals
    rcases bind_error failed with unresolved | ⟨collection, -, keyed⟩
    · exact resolveCollection_error unresolved
  · cases keyed
  · cases keyed
  · rcases bind_error keyed with unread | ⟨key, -, planned⟩
    · exact Key.ofValue_error unread
    · cases planned
  · rcases bind_error keyed with unread | ⟨key, -, planned⟩
    · exact Key.ofValue_error unread
    · cases planned

/-- What a plan is put together from. -/
inductive Planned (mode : CollectionMode) (sql : List Char) (params : List Value) : Plan → Prop
  | insert {collection : String} (kind : StatementKind.classify sql = .insert)
      (resolved : resolveCollection mode sql = .ok collection) :
      Planned mode sql params (.insert collection (Payload.ofInsert sql params))
  | select {collection : String} (kind : StatementKind.classify sql = .select)
      (resolved : resolveCollection mode sql = .ok collection) :
      Planned mode sql params (.select collection)
  | update {collection : String} {key : Key} (kind : StatementKind.classify sql = .update)
      (resolved : resolveCollection mode sql = .ok collection)
      (keyed : Key.ofValue .update (Payload.ofUpdate sql params).key? = .ok key) :
      Planned mode sql params (.update collection key (Payload.ofUpdate sql params).updates)
  | delete {collection : String} {key : Key} (kind : StatementKind.classify sql = .delete)
      (resolved : resolveCollection mode sql = .ok collection)
      (keyed : Key.ofValue .delete (Payload.ofDelete sql params) = .ok key) :
      Planned mode sql params (.delete collection key)

theorem planOf_ok_iff {mode : CollectionMode} {sql : List Char} {params : List Value}
    {plan : Plan} : planOf mode sql params = .ok plan ↔ Planned mode sql params plan := by
  constructor
  · intro planned
    simp only [planOf] at planned
    split at planned
    case h_1 => cases planned
    all_goals obtain ⟨collection, resolved, rest⟩ := bind_ok planned
    case h_2 kind =>
      cases rest
      exact .insert kind resolved
    case h_3 kind =>
      cases rest
      exact .select kind resolved
    case h_4 kind =>
      obtain ⟨key, keyed, finished⟩ := bind_ok rest
      cases finished
      exact .update kind resolved keyed
    case h_5 kind =>
      obtain ⟨key, keyed, finished⟩ := bind_ok rest
      cases finished
      exact .delete kind resolved keyed
  · intro planned
    cases planned with
    | insert kind resolved | select kind resolved =>
      simp only [planOf, kind, resolved]
      rfl
    | update kind resolved keyed | delete kind resolved keyed =>
      simp only [planOf, kind, resolved, bind, Except.bind, keyed]

theorem planned_update_iff {mode : CollectionMode} {sql : List Char} {params : List Value}
    {collection : String} {key : Key} {updates : Record} :
    Planned mode sql params (.update collection key updates) ↔
      StatementKind.classify sql = .update ∧ resolveCollection mode sql = .ok collection ∧
        Key.ofValue .update (Payload.ofUpdate sql params).key? = .ok key ∧
        (Payload.ofUpdate sql params).updates = updates := by
  constructor
  · rintro (_ | _ | ⟨kind, resolved, keyed⟩)
    exact ⟨kind, resolved, keyed, rfl⟩
  · rintro ⟨kind, resolved, keyed, rfl⟩
    exact .update kind resolved keyed

theorem planOf_collection {mode : CollectionMode} {sql : List Char} {params : List Value}
    {plan : Plan} (planned : planOf mode sql params = .ok plan) :
    resolveCollection mode sql = .ok plan.collection := by
  cases planOf_ok_iff.mp planned with
  | insert _ resolved | select _ resolved => exact resolved
  | update _ resolved _ | delete _ resolved _ => exact resolved

theorem planOf_fixed {sql : List Char} {params : List Value} {plan : Plan}
    (planned : planOf .fixed sql params = .ok plan) : plan.collection = fixedCollection :=
  (Except.ok.inj (planOf_collection planned)).symm

/-- An update or a deletion without a key: none was supplied, or it is null. -/
def Keyless (sql : List Char) (params : List Value) : Prop :=
  StatementKind.classify sql = .update ∧ (Payload.ofUpdate sql params).key? = none ∨
    StatementKind.classify sql = .delete ∧ Payload.ofDelete sql params = none

theorem Keyless.unplanned {sql : List Char} {params : List Value} (keyless : Keyless sql params)
    (mode : CollectionMode) : ∃ cause, planOf mode sql params = .error cause := by
  rcases keyless with ⟨kind, none⟩ | ⟨kind, none⟩
  all_goals
    simp only [planOf, kind, none]
    cases resolveCollection mode sql with
    | error cause => exact ⟨cause, rfl⟩
    | ok collection => exact ⟨.missingKey _, rfl⟩

theorem Plan.call_collection (plan : Plan) : plan.call.collection = plan.collection := by
  cases plan <;> rfl

end RecordSql
