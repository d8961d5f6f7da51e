/-!
Finite maps kept as a list of entries whose keys strictly ascend. The order is
part of the type, so two maps that answer every look-up alike are equal, and
whatever lists a map lists it in key order.
-/

namespace RecordSql

universe u v w

structure SortedMap (Key : Type u) (Item : Type v) [LT Key] where
  entries : List (Key × Item)
  ascending : entries.Pairwise fun first second => first.1 < second.1

namespace SortedMap

variable {Key : Type u} {Item : Type v}

section Entries

variable [LT Key] [DecidableLT Key]

def findIn (key : Key) : List (Key × Item) → Option Item
  | [] => none
  | (present, held) :: rest =>
      if key < present then none
      else if present < key then findIn key rest
      else some held

/-- An entry already held under the key is replaced. -/
def insertIn (key : Key) (item : Item) : List (Key × Item) → List (Key × Item)
  | [] => [(key, item)]
  | (present, held) :: rest =>
      if key < present then (key, item) :: (present, held) :: rest
      else if present < key then (present, held) :: insertIn key item rest
      else (key, item) :: rest

def eraseIn (key : Key) : List (Key × Item) → List (Key × Item)
  | [] => []
  | (present, held) :: rest =>
      if key < present then (present, held) :: rest
      else if present < key then (present, held) :: eraseIn key rest
      else rest

theorem mem_insertIn {key : Key} {item : Item} {entry : Key × Item}
    {entries : List (Key × Item)} (held : entry ∈ insertIn key item entries) :
    entry = (key, item) ∨ entry ∈ entries := by
  induction entries with
  | nil => simpa [insertIn] using held
  | cons first rest ih =>
    simp only [insertIn] at held
    split at held
    · simpa using held
    · split at held
      · rcases List.mem_cons.mp held with same | later
        · simp [same]
        · rcases ih later with new | old <;> simp [*]
      · rcases List.mem_cons.mp held with same | later <;> simp [*]

theorem eraseIn_sublist (key : Key) (entries : List (Key × Item)) :
    (eraseIn key entries).Sublist entries := by
  induction entries with
  | nil => exact .slnil
  | cons first rest ih =>
    simp only [eraseIn]
    split
    · exact List.Sublist.refl _
    · split
      · exact ih.cons_cons first
      · exact List.sublist_cons_self first rest

theorem insertIn_ascending [LE Key] [Std.IsLinearOrder Key] [Std.LawfulOrderLT Key]
    (key : Key) (item : Item) {entries : List (Key × Item)}
    (ascending : entries.Pairwise fun first second => first.1 < second.1) :
    (insertIn key item entries).Pairwise fun first second => first.1 < second.1 := by
  induction entries with
  | nil => simp [insertIn]
  | cons first rest ih =>
    obtain ⟨above, tail⟩ := List.pairwise_cons.mp ascending
    simp only [insertIn]
    split
    · rename_i below
      refine List.pairwise_cons.mpr ⟨fun entry held => ?_, ascending⟩
      rcases List.mem_cons.mp held with same | later
      · simpa [same] using below
      · exact Std.lt_trans below (above entry later)
    · split
      · rename_i below
        refine List.pairwise_cons.mpr ⟨fun entry held => ?_, ih tail⟩
        rcases mem_insertIn held with new | old
        · simpa [new] using below
        · exact above entry old
      · rename_i notBelow notAbove
        have same : key = first.1 :=
          Std.le_antisymm (Std.not_lt.mp notAbove) (Std.not_lt.mp notBelow)
        refine List.pairwise_cons.mpr ⟨fun entry held => ?_, tail⟩
        simpa [same] using above entry held

end Entries

variable [LT Key]

def empty : SortedMap Key Item where
  entries := []
  ascending := .nil

instance : EmptyCollection (SortedMap Key Item) := ⟨empty⟩

instance : Inhabited (SortedMap Key Item) := ⟨empty⟩

def toList (map : SortedMap Key Item) : List (Key × Item) := map.entries

def keys (map : SortedMap Key Item) : List Key := map.entries.map (·.1)

def items (map : SortedMap Key Item) : List Item := map.entries.map (·.2)

def size (map : SortedMap Key Item) : Nat := map.entries.length

def isEmpty (map : SortedMap Key Item) : Bool := map.entries.isEmpty

section Ordered

variable [DecidableLT Key]

def get? (map : SortedMap Key Item) (key : Key) : Option Item := findIn key map.entries

def contains (map : SortedMap Key Item) (key : Key) : Bool := (map.get? key).isSome

def erase (map : SortedMap Key Item) (key : Key) : SortedMap Key Item where
  entries := eraseIn key map.entries
  ascending := map.ascending.sublist (eraseIn_sublist key map.entries)

variable [LE Key] [Std.IsLinearOrder Key] [Std.LawfulOrderLT Key]

def insert (map : SortedMap Key Item) (key : Key) (item : Item) : SortedMap Key Item where
  entries := insertIn key item map.entries
  ascending := insertIn_ascending key item map.ascending

/-- Later pairs replace earlier ones of the same key. -/
def ofList (pairs : List (Key × Item)) : SortedMap Key Item :=
  pairs.foldl (fun map pair => map.insert pair.1 pair.2) empty

/-- Every entry of `updates` is written over `map`; other entries stay. -/
def merge (map updates : SortedMap Key Item) : SortedMap Key Item :=
  updates.entries.foldl (fun held pair => held.insert pair.1 pair.2) map

end Ordered

theorem ext_entries {left right : SortedMap Key Item}
    (same : left.entries = right.entries) : left = right := by
  cases left
  cases right
  cases same
  rfl

instance [DecidableEq Key] [DecidableEq Item] : DecidableEq (SortedMap Key Item) :=
  fun left right =>
    if same : left.entries = right.entries then
      .isTrue (ext_entries same)
    else
      .isFalse fun equal => same (equal ▸ rfl)

end SortedMap

end RecordSql
