import RecordSql.Proofs.SortedMap
import RecordSql.Proofs.Value.Survival
import RecordSql.Record

/-!
How parameters are reported back. A parameter written in JSON is reported as it was given,
whatever it is, except for a whole number that 64 bits hold without a sign alone. There is no
value for such a number, so the float nearest to it takes its place.
-/

namespace RecordSql

namespace Json

/-- A whole number that 64 bits hold, but only without a sign. -/
def IsUnsigned (json : Json) : Prop :=
  ∃ number low high, json = .number (.integer number low high) ∧ 9223372036854775808 ≤ number

/-- What a parameter is reported as. -/
def reported : Json → Json
  | .number (.integer whole low high) =>
      if whole < 9223372036854775808 then .number (.integer whole low high)
      else .ofReal (Binary64.ofInt whole)
  | json => json

theorem ofReal_of_finite {number : Binary64} (finite : number.isFinite = true) :
    ofReal number = .number (.real number finite) := by
  simp [ofReal, JsonNumber.ofReal?, finite]

theorem reported_unsigned {number : Int} (low : -9223372036854775808 ≤ number)
    (high : number < 18446744073709551616) (beyond : 9223372036854775808 ≤ number) :
    ∃ finite, reported (.number (.integer number low high)) =
      .number (.real (Binary64.ofInt number) finite) := by
  have small : number.natAbs < 18446744073709551616 := by omega
  have finite := Binary64.ofInt_isFinite small
  refine ⟨finite, ?_⟩
  rw [reported, if_neg (Int.not_lt.mpr beyond), ofReal_of_finite finite]

/-- What is reported as a float was not written as a whole number. -/
theorem reported_eq_iff (json : Json) : json.reported = json ↔ ¬json.IsUnsigned := by
  constructor
  · rintro same ⟨number, low, high, rfl, beyond⟩
    obtain ⟨finite, told⟩ := reported_unsigned low high beyond
    cases told.symm.trans same
  · intro signed
    unfold reported
    split
    · next number low high =>
      refine if_pos (Int.not_le.mp fun beyond => signed ?_)
      exact ⟨number, low, high, rfl, beyond⟩
    · rfl

end Json

/-- By the kind of the JSON value: a number is the one kind that two values can stand for. -/
theorem Value.toJson_ofJson (json : Json) : (ofJson json).toJson = json.reported := by
  cases json with
  | null | bool | string | array | object => rfl
  | number held =>
    cases held with
    | real number finite =>
      simp only [ofJson, JsonNumber.toInt64?, toJson, JsonNumber.toReal]
      exact Json.ofReal_of_finite finite
    | integer number low high =>
      simp only [ofJson, JsonNumber.toInt64?, Json.reported]
      by_cases fits : number < 9223372036854775808
      · have same : (Int64.ofInt number).toInt = number := Int64.toInt_ofInt_of_le low fits
        simp only [fits, ↓reduceIte, toJson, Json.ofInt64, JsonNumber.ofInt64, same]
      · simp only [fits, ↓reduceIte, toJson, JsonNumber.toReal]

/-- The whole number above the middle of those without a sign is not one that comes back. -/
theorem Value.unsigned_parameter_is_changed :
    (ofJson (.number (.integer 9223372036854775809 (by decide) (by decide)))).toJson ≠
      .number (.integer 9223372036854775809 (by decide) (by decide)) := by
  rw [toJson_ofJson, ne_eq, Json.reported_eq_iff, not_not]
  exact ⟨_, _, _, rfl, by decide⟩

/-- Each field of a record is reported by its own value, and nothing else is reported. -/
theorem Record.member?_toJson (record : Record) (field : String) :
    record.toJson.member? field = (record.get? field).map Value.toJson :=
  SortedMap.findIn_map Value.toJson field record.entries

end RecordSql
