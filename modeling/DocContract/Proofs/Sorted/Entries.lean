import DocContract.Proofs.Sorted.Lookup
import Mathlib.Data.List.Sort

namespace DocContract.Sorted

theorem mem_insertEntry {key : String} {value : α} {entry : String × α}
    {entries : List (String × α)} (member : entry ∈ insertEntry key value entries) :
    entry = (key, value) ∨ entry ∈ entries := by
  induction entries with
  | nil => exact .inl (List.mem_singleton.mp member)
  | cons first rest ih =>
    obtain ⟨other, held⟩ := first
    rw [insertEntry] at member
    split at member
    · exact List.mem_cons.mp member
    · split at member
      · rcases List.mem_cons.mp member with own | later
        · exact .inl own
        · exact .inr (List.mem_cons_of_mem _ later)
      · rcases List.mem_cons.mp member with own | later
        · exact .inr (own ▸ List.mem_cons_self)
        · exact (ih later).imp_right (List.mem_cons_of_mem _)

theorem insertEntry_of_lt {key : String} {value : α} {entries : List (String × α)}
    (last : ∀ other ∈ entries, other.1 < key) :
    insertEntry key value entries = entries ++ [(key, value)] := by
  induction entries with
  | nil => rfl
  | cons first rest ih =>
    have before : first.1 < key := last first List.mem_cons_self
    have notBefore : ¬ key < first.1 := String.lt_asymm before
    have distinct : key ≠ first.1 := (String.ne_of_lt before).symm
    rw [insertEntry, if_neg notBefore, if_neg distinct,
      ih fun other member => last other (List.mem_cons_of_mem _ member)]
    rfl

namespace KeyMap

variable {map : KeyMap α} {entry : String × α}

theorem mem_entries_insert {key : String} {value : α}
    (member : entry ∈ (map.insert key value).entries) :
    entry = (key, value) ∨ entry ∈ map.entries :=
  mem_insertEntry member

theorem mem_entries_insertNew {key : String} {value : α}
    (member : entry ∈ (map.insertNew key value).entries) :
    entry = (key, value) ∨ entry ∈ map.entries := by
  rw [insertNew] at member
  split at member
  · exact .inr member
  · exact mem_entries_insert member

private theorem mem_entries_foldl_insert {pairs : List (String × α)}
    (member : entry ∈ (pairs.foldl (fun map pair => map.insert pair.1 pair.2) map).entries) :
    entry ∈ pairs ∨ entry ∈ map.entries := by
  induction pairs generalizing map with
  | nil => exact .inr member
  | cons pair rest ih =>
    rcases ih member with later | kept
    · exact .inl (List.mem_cons_of_mem _ later)
    · rcases mem_entries_insert kept with own | before
      · exact .inl (own ▸ List.mem_cons_self)
      · exact .inr before

theorem mem_entries_ofList {pairs : List (String × α)}
    (member : entry ∈ (ofList pairs).entries) : entry ∈ pairs :=
  (mem_entries_foldl_insert member).resolve_right List.not_mem_nil

/-- Adding values under names of their own gives no other entries. -/
theorem mem_entries_foldl_insertNew {name : α → String} {items : List α}
    (member : entry ∈ (items.foldl (fun map item => map.insertNew (name item) item) map).entries) :
    (∃ item ∈ items, entry = (name item, item)) ∨ entry ∈ map.entries := by
  induction items generalizing map with
  | nil => exact .inr member
  | cons item rest ih =>
    rcases ih member with ⟨later, inside, same⟩ | kept
    · exact .inl ⟨later, List.mem_cons_of_mem _ inside, same⟩
    · rcases mem_entries_insertNew kept with own | before
      · exact .inl ⟨item, List.mem_cons_self, own⟩
      · exact .inr before

theorem mem_values_iff {value : α} : value ∈ map.values ↔ ∃ key, (key, value) ∈ map.entries := by
  simp [values]

theorem mem_keys_iff {key : String} : key ∈ map.keys ↔ ∃ value, (key, value) ∈ map.entries := by
  simp [keys]

theorem mem_entries_mapValues_iff {key : String} {value : β} {change : String → α → β} :
    (key, value) ∈ (map.mapValues change).entries ↔
      ∃ held, (key, held) ∈ map.entries ∧ change key held = value := by
  simp only [mapValues, List.mem_map, Prod.exists, Prod.mk.injEq]
  constructor
  · rintro ⟨_, held, member, rfl, same⟩
    exact ⟨held, member, same⟩
  · rintro ⟨held, member, same⟩
    exact ⟨key, held, member, rfl, same⟩

private theorem entries_foldl_insert {pairs : List (String × α)}
    (sorted : ((map.entries ++ pairs).map Prod.fst).Pairwise (· < ·)) :
    (pairs.foldl (fun map pair => map.insert pair.1 pair.2) map).entries =
      map.entries ++ pairs := by
  induction pairs generalizing map with
  | nil => simp
  | cons pair rest ih =>
    obtain ⟨key, value⟩ := pair
    have last : ∀ other ∈ map.entries, other.1 < key := by
      rw [List.map_append, List.pairwise_append] at sorted
      intro other member
      exact sorted.2.2 other.1 (List.mem_map_of_mem member) key List.mem_cons_self
    have extended : (map.insert key value).entries = map.entries ++ [(key, value)] :=
      insertEntry_of_lt last
    rw [List.foldl_cons, ih, extended, List.append_assoc, List.singleton_append]
    rwa [extended, List.append_assoc, List.singleton_append]

/-- Pairs that are in order already are the entries of the map made from them. -/
theorem entries_ofList {pairs : List (String × α)}
    (sorted : (pairs.map Prod.fst).Pairwise (· < ·)) : (ofList pairs).entries = pairs :=
  entries_foldl_insert sorted

theorem eq_of_entries {other : KeyMap α} (same : map.entries = other.entries) : map = other := by
  cases map
  cases other
  cases same
  rfl

theorem eq_empty_of_isEmpty (empty : map.isEmpty = true) : map = ∅ :=
  eq_of_entries (List.isEmpty_iff.mp empty)

def without (map : KeyMap α) (keys : List String) : KeyMap α :=
  ⟨map.entries.filter fun entry => !keys.contains entry.1,
    map.sorted.sublist (List.filter_sublist.map _)⟩

/-- What is stored under one of the keys does not matter. -/
theorem without_insert {keys : List String} {key : String} (dropped : key ∈ keys) (value : α) :
    (map.insert key value).without keys = map.without keys := by
  apply eq_of_entries
  change (insertEntry key value map.entries).filter _ = map.entries.filter _
  induction map.entries with
  | nil => simp [insertEntry, dropped]
  | cons first rest ih =>
    rw [insertEntry]
    split
    · exact List.filter_cons_of_neg (by simpa using dropped)
    · split
      · next same => simp [← same, dropped]
      · simp only [List.filter_cons, ih]

theorem ofList_entries (map : KeyMap α) : ofList map.entries = map :=
  eq_of_entries (entries_ofList map.sorted)

end KeyMap

namespace KeySet

variable {set other : KeySet}

theorem eq_of_members (same : set.members = other.members) : set = other := by
  cases set
  cases other
  cases same
  rfl

/-- Sets with the same members are equal. -/
theorem eq_of_mem_iff (same : ∀ name, name ∈ set.members ↔ name ∈ other.members) : set = other :=
  eq_of_members (set.sorted.eq_of_mem_iff other.sorted fun {name} => same name)

theorem eq_empty_of_isEmpty (empty : set.isEmpty = true) : set = ∅ :=
  eq_of_members (List.isEmpty_iff.mp empty)

theorem ofList_members (set : KeySet) : ofList set.members = set := by
  have names : (set.members.map fun name => (name, ())).map Prod.fst = set.members := by
    simp [Function.comp_def]
  have entries := KeyMap.entries_ofList (names ▸ set.sorted)
  apply eq_of_members
  rw [ofList, ofKeys]
  exact (congrArg (List.map Prod.fst) entries).trans names

end KeySet

end DocContract.Sorted
