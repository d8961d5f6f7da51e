import RecordSql.Proofs.Binary64.WholeNumbers
import RecordSql.Proofs.Timestamp.RoundTrip
import RecordSql.Value.Json

/-!
Which values survive being stored. The stored form does not say of which kind a
value was, so reading guesses, and a value survives when the guess is right. What
was read once survives: its kind was guessed, and the same guess is made again.
-/

namespace RecordSql

/-- A whole number that a byte can hold. -/
def Json.IsByte (item : Json) : Prop :=
  ∃ number low high, item = .number (.integer number low high) ∧ 0 ≤ number ∧ number ≤ 255

namespace Value

/-- The values that are read from their stored form as they were. -/
def Survives : Value → Prop
  | .integer _ | .bool _ | .null | .blob _ => True
  | .real number => number.isFinite = true
  | .timestamp time => time.Legible
  | .text content => Timestamp.read? content = none
  | .json (.object _) => True
  | .json (.array items) => ¬∀ item ∈ items, item.IsByte
  | .json _ => False

section Bytes

theorem byte?_eq_none_iff (item : Json) : byte? item = none ↔ ¬item.IsByte := by
  constructor
  case mp =>
    rintro refused ⟨number, low, high, rfl, nonnegative, small⟩
    simp only [byte?, nonnegative, small, and_self, ↓reduceIte] at refused
    cases refused
  case mpr =>
    intro other
    simp only [byte?]
    split
    case h_1 number low high =>
      exact if_neg fun fits => other ⟨number, low, high, rfl, fits⟩
    case h_2 => rfl

/-- One item that is no byte is enough for a list to be no blob. -/
theorem mapM_byte?_eq_none_iff (items : List Json) :
    items.mapM byte? = none ↔ ¬∀ item ∈ items, item.IsByte := by
  induction items with
  | nil => simp
  | cons first rest ih =>
    rw [List.mapM_cons, List.forall_mem_cons]
    cases read : byte? first with
    | none =>
      have other := (byte?_eq_none_iff first).mp read
      simp [other]
    | some byte =>
      have same : first.IsByte := by
        by_contra other
        simp [(byte?_eq_none_iff first).mpr other] at read
      cases others : rest.mapM byte? with
      | none => simpa [same] using ih.mp others
      | some bytes =>
        have all : ¬¬∀ item ∈ rest, item.IsByte := fun another => by
          simp [ih.mpr another] at others
        simpa [same] using all

theorem byte?_ofUInt8 (byte : UInt8) : byte? (.number (.ofUInt8 byte)) = some byte := by
  have small : (byte.toNat : Int) ≤ 255 := by have := byte.toNat_lt; omega
  have nonnegative : (0 : Int) ≤ byte.toNat := by omega
  simp only [JsonNumber.ofUInt8, byte?, nonnegative, small, and_self, ↓reduceIte,
    Int.toNat_natCast, UInt8.ofNat_toNat]

theorem mapM_byte?_blobJson (bytes : List UInt8) :
    (bytes.map fun byte => Json.number (.ofUInt8 byte)).mapM byte? = some bytes := by
  induction bytes with
  | nil => rfl
  | cons first rest ih =>
    rw [List.map_cons, List.mapM_cons, byte?_ofUInt8, ih]
    rfl

end Bytes

theorem toInt64?_ofInt64 (number : Int64) :
    (JsonNumber.ofInt64 number).toInt64? = some number := by
  have below : number.toInt < 9223372036854775808 := number.toInt_lt
  simp only [JsonNumber.ofInt64, JsonNumber.toInt64?, below, ↓reduceIte, Int64.ofInt_toInt]

/-- A stored value is read as it was exactly where it survives. -/
theorem load_store_iff (value : Value) : load value.store = value ↔ value.Survives := by
  cases value with
  | integer number =>
    simp only [store, toJson, Json.ofInt64, load, toInt64?_ofInt64, Survives]
  | real number =>
    by_cases finite : number.isFinite = true
    case pos =>
      simp only [store, toJson, Json.ofReal, JsonNumber.ofReal?, finite, ↓reduceDIte, load,
        JsonNumber.toInt64?, JsonNumber.toReal, Survives]
    case neg =>
      -- What is not finite is stored as null.
      simp [store, toJson, Json.ofReal, JsonNumber.ofReal?, finite, load, Survives]
  | bool flag => simp only [store, toJson, load, Survives]
  | timestamp time =>
    rw [Survives, ← Timestamp.read?_stored_iff]
    simp only [store, load]
    cases Timestamp.read? time.stored <;> simp
  | text content =>
    simp only [store, toJson, load, Survives]
    cases Timestamp.read? content <;> simp
  | null => simp only [store, toJson, load, Survives]
  | blob bytes =>
    simp only [store, toJson, blobJson, load, mapM_byte?_blobJson, Survives]
  | json held =>
    cases held with
    | null | bool flag => simp [store, toJson, load, Survives]
    | number held =>
      simp only [store, toJson, load, Survives]
      cases held.toInt64? <;> simp
    | string content =>
      simp only [store, toJson, load, Survives]
      cases Timestamp.read? content <;> simp
    | array items =>
      rw [Survives, ← mapM_byte?_eq_none_iff]
      simp only [store, toJson, load]
      cases items.mapM byte? <;> simp
    | object members => simp only [store, toJson, load, Survives]

/-- What was read from JSON survives, whatever the JSON was. -/
theorem load_survives (json : Json) : (load json).Survives := by
  cases json with
  | null | bool flag | object members => trivial
  | number held =>
    simp only [load]
    cases held with
    | integer number low high =>
      by_cases fits : number < 9223372036854775808
      · simp only [JsonNumber.toInt64?, fits, ↓reduceIte, Survives]
      · -- A whole number that is too large is read as the float nearest to it.
        have small : number.natAbs < 18446744073709551616 := by omega
        simp only [JsonNumber.toInt64?, fits, ↓reduceIte, JsonNumber.toReal, Survives]
        exact Binary64.ofInt_isFinite small
    | real number finite => exact finite
  | string content =>
    simp only [load]
    cases read : Timestamp.read? content with
    | none => exact read
    | some time => exact Timestamp.read?_legible read
  | array items =>
    simp only [load]
    cases bytes : items.mapM byte? with
    | none => exact (mapM_byte?_eq_none_iff items).mp bytes
    | some bytes => trivial

end Value

end RecordSql
