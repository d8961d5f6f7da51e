import RecordSql.SortedMap

/-!
Look-up theory of sorted maps. What a key answers after an insertion or a
removal needs no hypothesis beside the order of the keys, because that order is
part of the map. Sizes and key lists are read off look-ups.
-/

namespace RecordSql.SortedMap

universe u v w

variable {Key : Type u} {Item : Type v} [LT Key] [DecidableLT Key]

@[simp]
theorem get?_empty (key : Key) : (empty : SortedMap Key Item).get? key = none := rfl

@[simp]
theorem contains_empty (key : Key) : (empty : SortedMap Key Item).contains key = false := rfl

theorem contains_iff (map : SortedMap Key Item) (key : Key) :
    map.contains key = true ↔ ∃ item, map.get? key = some item := by
  simp [contains, Option.isSome_iff_exists]

theorem contains_eq_false_iff (map : SortedMap Key Item) (key : Key) :
    map.contains key = false ↔ map.get? key = none := by
  simp [contains]

theorem findIn_eq_none_of_lt {key : Key} {entries : List (Key × Item)}
    (above : ∀ entry ∈ entries, key < entry.1) : findIn key entries = none := by
  cases entries with
  | nil => rfl
  | cons first rest =>
    have below := above first (by simp)
    simp [findIn, below]

/-- To look up and then convert is to look up among what was converted. -/
theorem findIn_map {Shown : Type w} (convert : Item → Shown) (key : Key)
    (entries : List (Key × Item)) :
    findIn key (entries.map fun (key, item) => (key, convert item)) =
      (findIn key entries).map convert := by
  induction entries with
  | nil => rfl
  | cons first rest ih =>
    simp only [List.map_cons, findIn, ih]
    split
    · rfl
    · split <;> rfl

variable [LE Key] [Std.IsLinearOrder Key] [Std.LawfulOrderLT Key]

omit [DecidableLT Key] in
theorem eq_of_not_lt {left right : Key} (notBelow : ¬left < right) (notAbove : ¬right < left) :
    left = right :=
  Std.le_antisymm (Std.not_lt.mp notAbove) (Std.not_lt.mp notBelow)

omit [DecidableLT Key] in
theorem lt_of_not_lt_of_ne {left right : Key} (notBelow : ¬left < right)
    (differ : left ≠ right) : right < left :=
  Classical.byContradiction fun notAbove => differ (eq_of_not_lt notBelow notAbove)

omit [Std.IsLinearOrder Key] in
theorem findIn_insertIn_self (key : Key) (item : Item) (entries : List (Key × Item)) :
    findIn key (insertIn key item entries) = some item := by
  induction entries with
  | nil => simp [insertIn, findIn, Std.lt_irrefl]
  | cons first rest ih =>
    obtain ⟨present, held⟩ := first
    simp only [insertIn]
    by_cases below : key < present
    · simp [below, findIn, Std.lt_irrefl]
    · by_cases above : present < key
      · simpa [below, above, findIn] using ih
      · simp [below, above, findIn, Std.lt_irrefl]

theorem insertIn_of_findIn {key : Key} {item : Item} {entries : List (Key × Item)}
    (found : findIn key entries = some item) : insertIn key item entries = entries := by
  induction entries with
  | nil => cases found
  | cons first rest ih =>
    obtain ⟨present, held⟩ := first
    by_cases below : key < present
    · simp [findIn, below] at found
    · by_cases above : present < key
      · simp only [findIn, below, above, ↓reduceIte] at found
        simp only [insertIn, below, above, ↓reduceIte, ih found]
      · simp only [findIn, below, above, ↓reduceIte, Option.some.injEq] at found
        simp only [insertIn, below, above, ↓reduceIte, found]
        rw [eq_of_not_lt below above]

theorem findIn_insertIn_of_ne {key other : Key} (differ : other ≠ key) (item : Item)
    (entries : List (Key × Item)) :
    findIn other (insertIn key item entries) = findIn other entries := by
  induction entries with
  | nil =>
    simp only [insertIn, findIn]
    by_cases below : other < key
    · simp [below]
    · simp [below, lt_of_not_lt_of_ne below differ]
  | cons first rest ih =>
    obtain ⟨present, held⟩ := first
    simp only [insertIn]
    by_cases below : key < present
    · simp only [below, ↓reduceIte, findIn]
      by_cases otherBelow : other < key
      · simp [otherBelow, Std.lt_trans otherBelow below]
      · have otherAbove : key < other :=
          Classical.byContradiction fun notAbove => differ (eq_of_not_lt otherBelow notAbove)
        simp [otherBelow, otherAbove]
    · by_cases above : present < key
      · simp [below, above, findIn, ih]
      · have same : key = present := eq_of_not_lt below above
        subst same
        simp only [below, ↓reduceIte, findIn]
        by_cases otherBelow : other < key
        · simp [otherBelow]
        · have otherAbove : key < other := lt_of_not_lt_of_ne otherBelow differ
          simp [otherBelow, otherAbove]

theorem findIn_eraseIn_self (key : Key) {entries : List (Key × Item)}
    (ascending : entries.Pairwise fun first second => first.1 < second.1) :
    findIn key (eraseIn key entries) = none := by
  induction entries with
  | nil => rfl
  | cons first rest ih =>
    obtain ⟨present, held⟩ := first
    obtain ⟨later, tail⟩ := List.pairwise_cons.mp ascending
    simp only [eraseIn]
    by_cases below : key < present
    · simp [below, findIn]
    · by_cases above : present < key
      · simpa [below, above, findIn] using ih tail
      · have same : key = present := eq_of_not_lt below above
        subst same
        simpa [below] using findIn_eq_none_of_lt later

theorem findIn_eraseIn_of_ne {key other : Key} (differ : other ≠ key)
    {entries : List (Key × Item)}
    (ascending : entries.Pairwise fun first second => first.1 < second.1) :
    findIn other (eraseIn key entries) = findIn other entries := by
  induction entries with
  | nil => rfl
  | cons first rest ih =>
    obtain ⟨present, held⟩ := first
    obtain ⟨later, tail⟩ := List.pairwise_cons.mp ascending
    simp only [eraseIn]
    by_cases below : key < present
    · simp [below]
    · by_cases above : present < key
      · simp [below, above, findIn, ih tail]
      · have same : key = present := eq_of_not_lt below above
        subst same
        simp only [below, ↓reduceIte, findIn]
        by_cases otherBelow : other < key
        · have beyond : findIn other rest = none :=
            findIn_eq_none_of_lt fun entry held => Std.lt_trans otherBelow (later entry held)
          simp [otherBelow, beyond]
        · have otherAbove : key < other := lt_of_not_lt_of_ne otherBelow differ
          simp [otherBelow, otherAbove]

@[simp]
theorem get?_insert_self (map : SortedMap Key Item) (key : Key) (item : Item) :
    (map.insert key item).get? key = some item :=
  findIn_insertIn_self key item map.entries

theorem get?_insert_of_ne (map : SortedMap Key Item) {key other : Key} (differ : other ≠ key)
    (item : Item) : (map.insert key item).get? other = map.get? other :=
  findIn_insertIn_of_ne differ item map.entries

/-- What is found after an insertion was inserted or was there before. -/
theorem get?_of_insert {map : SortedMap Key Item} {key other : Key} {item found : Item}
    (present : (map.insert key item).get? other = some found) :
    (other = key ∧ found = item) ∨ map.get? other = some found := by
  by_cases same : other = key
  · rw [same, get?_insert_self] at present
    exact .inl ⟨same, (Option.some.inj present).symm⟩
  · rw [get?_insert_of_ne map same] at present
    exact .inr present

theorem insert_of_get? (map : SortedMap Key Item) {key : Key} {item : Item}
    (found : map.get? key = some item) : map.insert key item = map :=
  ext_entries (insertIn_of_findIn found)

@[simp]
theorem get?_erase_self (map : SortedMap Key Item) (key : Key) :
    (map.erase key).get? key = none :=
  findIn_eraseIn_self key map.ascending

theorem get?_erase_of_ne (map : SortedMap Key Item) {key other : Key} (differ : other ≠ key) :
    (map.erase key).get? other = map.get? other :=
  findIn_eraseIn_of_ne differ map.ascending

theorem get?_of_erase {map : SortedMap Key Item} {key other : Key} {found : Item}
    (present : (map.erase key).get? other = some found) : map.get? other = some found := by
  by_cases same : other = key
  · rw [same, get?_erase_self] at present
    cases present
  · rwa [get?_erase_of_ne map same] at present

theorem get?_insert [DecidableEq Key] (map : SortedMap Key Item) (key other : Key)
    (item : Item) :
    (map.insert key item).get? other = if other = key then some item else map.get? other := by
  by_cases same : other = key
  · rw [if_pos same, same, get?_insert_self]
  · rw [if_neg same, get?_insert_of_ne map same]

theorem contains_insert [DecidableEq Key] (map : SortedMap Key Item) (key other : Key)
    (item : Item) :
    (map.insert key item).contains other = (decide (other = key) || map.contains other) := by
  by_cases same : other = key
  · simp [contains, same]
  · simp [contains, same, get?_insert_of_ne map same]

theorem size_insert (map : SortedMap Key Item) (key : Key) (item : Item) :
    (map.insert key item).size = if map.contains key then map.size else map.size + 1 := by
  obtain ⟨entries, ascending⟩ := map
  simp only [insert, size, contains, get?]
  induction entries with
  | nil => simp [insertIn, findIn]
  | cons first rest ih =>
    obtain ⟨present, held⟩ := first
    have tail := (List.pairwise_cons.mp ascending).2
    simp only [insertIn, findIn]
    by_cases below : key < present
    · simp [below]
    · by_cases above : present < key
      · simp only [below, above, ↓reduceIte, List.length_cons, ih tail]
        by_cases found : (findIn key rest).isSome = true
        · simp [found]
        · simp [found]
      · simp [below, above]

theorem mem_of_findIn {key : Key} {item : Item} {entries : List (Key × Item)}
    (found : findIn key entries = some item) : (key, item) ∈ entries := by
  induction entries with
  | nil => simp [findIn] at found
  | cons first rest ih =>
    obtain ⟨present, held⟩ := first
    simp only [findIn] at found
    by_cases below : key < present
    · simp [below] at found
    · by_cases above : present < key
      · exact List.mem_cons_of_mem _ (ih (by simpa [below, above] using found))
      · have same : key = present := eq_of_not_lt below above
        have heldEqual : held = item := by simpa [below, above] using found
        simp [same, heldEqual]

theorem findIn_of_mem {key : Key} {item : Item} {entries : List (Key × Item)}
    (ascending : entries.Pairwise fun first second => first.1 < second.1)
    (member : (key, item) ∈ entries) : findIn key entries = some item := by
  induction entries with
  | nil => simp at member
  | cons first rest ih =>
    obtain ⟨present, held⟩ := first
    obtain ⟨later, tail⟩ := List.pairwise_cons.mp ascending
    rcases List.mem_cons.mp member with same | inRest
    · cases same
      simp [findIn, Std.lt_irrefl]
    · have above : present < key := later (key, item) inRest
      have notBelow : ¬key < present := fun below => Std.lt_irrefl (Std.lt_trans below above)
      simp [findIn, notBelow, above, ih tail inRest]

theorem get?_eq_some_iff (map : SortedMap Key Item) (key : Key) (item : Item) :
    map.get? key = some item ↔ (key, item) ∈ map.entries :=
  ⟨mem_of_findIn, findIn_of_mem map.ascending⟩

/-- Maps that answer every look-up alike are equal. -/
theorem ext_get? {left right : SortedMap Key Item}
    (same : ∀ key, left.get? key = right.get? key) : left = right := by
  apply ext_entries
  have members : ∀ entry, entry ∈ left.entries ↔ entry ∈ right.entries := by
    rintro ⟨key, item⟩
    rw [← get?_eq_some_iff, ← get?_eq_some_iff, same]
  have distinct : ∀ map : SortedMap Key Item, map.entries.Nodup := by
    intro map
    refine map.ascending.imp ?_
    intro first second below same
    rw [same] at below
    exact Std.lt_irrefl below
  refine List.Perm.eq_of_pairwise ?_ left.ascending right.ascending
    ((List.perm_ext_iff_of_nodup (distinct left) (distinct right)).mpr members)
  intro first second _ _ below above
  exact absurd (Std.lt_trans below above) Std.lt_irrefl

/-- What was not there before is gone when it is taken out again. -/
theorem erase_insert_self [DecidableEq Key] (map : SortedMap Key Item) {key : Key}
    (absent : map.get? key = none) (item : Item) : (map.insert key item).erase key = map := by
  apply ext_get?
  intro other
  by_cases same : other = key
  · rw [same, get?_erase_self, absent]
  · rw [get?_erase_of_ne _ same, get?_insert_of_ne _ same]

/-- What is inserted twice under one key is there as it was inserted last. -/
theorem insert_insert [DecidableEq Key] (map : SortedMap Key Item) (key : Key)
    (item later : Item) : (map.insert key item).insert key later = map.insert key later := by
  apply ext_get?
  intro other
  by_cases same : other = key
  · rw [same, get?_insert_self, get?_insert_self]
  · rw [get?_insert_of_ne _ same, get?_insert_of_ne _ same, get?_insert_of_ne _ same]

section Apart

variable [DecidableEq Key] (map : SortedMap Key Item) {key other : Key}

theorem insert_comm (differ : key ≠ other) (item later : Item) :
    (map.insert key item).insert other later = (map.insert other later).insert key item := by
  apply ext_get?
  intro asked
  simp only [get?_insert]
  by_cases first : asked = key
  · simp [first, differ]
  · simp [first]

theorem erase_insert_comm (differ : key ≠ other) (item : Item) :
    (map.insert key item).erase other = (map.erase other).insert key item := by
  apply ext_get?
  intro asked
  by_cases gone : asked = other
  · rw [gone, get?_erase_self, get?_insert_of_ne _ (Ne.symm differ), get?_erase_self]
  · rw [get?_erase_of_ne _ gone, get?_insert, get?_insert, get?_erase_of_ne _ gone]

theorem erase_comm (differ : key ≠ other) :
    (map.erase key).erase other = (map.erase other).erase key := by
  apply ext_get?
  intro asked
  by_cases gone : asked = other
  · rw [gone, get?_erase_self, get?_erase_of_ne _ (Ne.symm differ), get?_erase_self]
  · by_cases first : asked = key
    · rw [first, get?_erase_of_ne _ differ, get?_erase_self, get?_erase_self]
    · rw [get?_erase_of_ne _ gone, get?_erase_of_ne _ first, get?_erase_of_ne _ first,
        get?_erase_of_ne _ gone]

end Apart

/-- What is written over a map is found first. -/
theorem get?_merge (map updates : SortedMap Key Item) (key : Key) :
    (map.merge updates).get? key = (updates.get? key).or (map.get? key) := by
  obtain ⟨entries, ascending⟩ := updates
  simp only [merge, get?]
  induction entries generalizing map with
  | nil => rfl
  | cons first rest ih =>
    obtain ⟨present, item⟩ := first
    obtain ⟨later, tail⟩ := List.pairwise_cons.mp ascending
    rw [List.foldl_cons, ih (map.insert present item) tail]
    by_cases same : key = present
    · -- The keys ascend, so no later entry has this key.
      subst same
      have once : findIn key rest = none := findIn_eq_none_of_lt later
      have found : findIn key ((key, item) :: rest) = some item := by
        simp [findIn, Std.lt_irrefl]
      rw [once, found, Option.none_or, Option.some_or]
      exact get?_insert_self map key item
    · have passed : findIn key ((present, item) :: rest) = findIn key rest := by
        simp only [findIn]
        by_cases below : key < present
        · rw [if_pos below, findIn_eq_none_of_lt fun entry held =>
            Std.lt_trans below (later entry held)]
        · rw [if_neg below, if_pos (lt_of_not_lt_of_ne below same)]
      rw [passed]
      exact congrArg _ (get?_insert_of_ne map same item)

theorem mem_keys_iff (map : SortedMap Key Item) (key : Key) :
    key ∈ map.keys ↔ map.contains key = true := by
  rw [contains_iff]
  constructor
  · intro member
    obtain ⟨⟨found, item⟩, held, same⟩ := List.mem_map.mp member
    cases same
    exact ⟨item, (get?_eq_some_iff map found item).mpr held⟩
  · rintro ⟨item, found⟩
    exact List.mem_map.mpr ⟨(key, item), (get?_eq_some_iff map key item).mp found, rfl⟩

theorem ofList_concat (pairs : List (Key × Item)) (last : Key × Item) :
    ofList (pairs ++ [last]) = (ofList pairs).insert last.1 last.2 := by
  rw [ofList, List.foldl_append]
  rfl

theorem insertIn_of_above {key : Key} {item : Item} {entries : List (Key × Item)}
    (above : ∀ entry ∈ entries, entry.1 < key) :
    insertIn key item entries = entries ++ [(key, item)] := by
  induction entries with
  | nil => rfl
  | cons first rest ih =>
    have later : first.1 < key := above first List.mem_cons_self
    have notBelow : ¬key < first.1 := fun below => Std.lt_irrefl (Std.lt_trans below later)
    have tail := ih fun entry member => above entry (List.mem_cons_of_mem _ member)
    simp only [insertIn, notBelow, later, ↓reduceIte, tail, List.cons_append]

/-- Pairs that ascend beyond a map are put at its end. -/
theorem foldl_insert_entries (map : SortedMap Key Item) {pairs : List (Key × Item)}
    (ascending : (map.entries ++ pairs).Pairwise fun first second => first.1 < second.1) :
    (pairs.foldl (fun map pair => map.insert pair.1 pair.2) map).entries =
      map.entries ++ pairs := by
  induction pairs generalizing map with
  | nil => exact (List.append_nil _).symm
  | cons first rest ih =>
    have above := (List.pairwise_append.mp ascending).2.2
    have inserted : (map.insert first.1 first.2).entries = map.entries ++ [first] :=
      insertIn_of_above fun entry member => above entry member first List.mem_cons_self
    have regrouped : map.entries ++ first :: rest = map.entries ++ [first] ++ rest := by simp
    rw [regrouped] at ascending ⊢
    rw [← inserted] at ascending ⊢
    exact ih _ ascending

theorem ofList_entries {pairs : List (Key × Item)}
    (ascending : pairs.Pairwise fun first second => first.1 < second.1) :
    (ofList pairs).entries = pairs :=
  foldl_insert_entries empty ascending

theorem mem_of_mem_ofList {pairs : List (Key × Item)} {entry : Key × Item}
    (member : entry ∈ (ofList pairs).entries) : entry ∈ pairs := by
  have origin : ∀ map : SortedMap Key Item,
      entry ∈ (pairs.foldl (fun map pair => map.insert pair.1 pair.2) map).entries →
        entry ∈ map.entries ∨ entry ∈ pairs := by
    clear member
    induction pairs with
    | nil => exact fun map held => .inl held
    | cons first rest ih =>
      intro map held
      rcases ih _ held with earlier | later
      · rcases mem_insertIn earlier with new | old
        · exact .inr (new ▸ List.mem_cons_self)
        · exact .inl old
      · exact .inr (List.mem_cons_of_mem _ later)
  exact (origin empty member).resolve_left List.not_mem_nil

end RecordSql.SortedMap
