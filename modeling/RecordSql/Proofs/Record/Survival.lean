import RecordSql.Proofs.SortedMap
import RecordSql.Proofs.Value.Survival
import RecordSql.Record

/-!
Which records survive being stored: those whose values all do. Fields are neither
lost nor confused, since a record lists them by ascending name and is stored in
that order.
-/

namespace RecordSql.Record

/-- A field whose value was stored and read. -/
def reread (entry : String × Value) : String × Value := (entry.1, Value.load entry.2.store)

theorem reread_eq_iff (entry : String × Value) : reread entry = entry ↔ entry.2.Survives := by
  rw [← Value.load_store_iff, reread, Prod.ext_iff]
  exact ⟨And.right, fun same => ⟨rfl, same⟩⟩

/-- A stored record is read with the same fields, each value read by itself. -/
theorem load?_store (record : Record) :
    ∃ again, load? record.store = some again ∧ again.entries = record.entries.map reread := by
  have ascending : (record.entries.map reread).Pairwise fun first second =>
      first.1 < second.1 := List.pairwise_map.mpr record.ascending
  have read : load? record.store = some (.ofList (record.entries.map reread)) := by
    rw [store, load?, List.map_map]
    rfl
  exact ⟨_, read, SortedMap.ofList_entries ascending⟩

theorem load?_store_iff (record : Record) :
    load? record.store = some record ↔ ∀ entry ∈ record.entries, entry.2.Survives := by
  obtain ⟨again, loaded, entries⟩ := load?_store record
  rw [loaded, Option.some.injEq]
  constructor
  case mp =>
    intro same entry member
    have kept : record.entries.map reread = record.entries.map id := by
      rw [← entries, same, List.map_id]
    exact (reread_eq_iff entry).mp (List.map_inj_left.mp kept entry member)
  case mpr =>
    intro survive
    have kept : record.entries.map reread = record.entries.map id :=
      List.map_congr_left fun entry member => (reread_eq_iff entry).mpr (survive entry member)
    apply SortedMap.ext_entries
    rw [entries, kept, List.map_id]

/-- What was read as a record is made of values that survive. -/
theorem survives_of_load? {json : Json} {record : Record} (loaded : load? json = some record) :
    ∀ entry ∈ record.entries, entry.2.Survives := by
  cases json with
  | object members =>
    cases loaded
    intro entry member
    -- An entry of the record was read from some member, though not every member is kept.
    have read := SortedMap.mem_of_mem_ofList member
    obtain ⟨⟨field, value⟩, -, same⟩ := List.mem_map.mp read
    rw [← same]
    exact Value.load_survives value
  | null | bool | number | string | array => cases loaded

/-- A stored record is read as it was if and only if all of its values survive.
What any JSON is read as, or that it is refused, is the same after it is stored
and read once more. -/
theorem survives_storing :
    (∀ record : Record,
      load? record.store = some record ↔ ∀ entry ∈ record.entries, entry.2.Survives) ∧
    ∀ json : Json, ((load? json).bind fun record => load? record.store) = load? json := by
  constructor
  case left => exact load?_store_iff
  case right =>
    intro json
    cases loaded : load? json with
    | none => rfl
    | some record => exact (load?_store_iff record).mpr (survives_of_load? loaded)

end RecordSql.Record
