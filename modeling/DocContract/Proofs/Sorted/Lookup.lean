import DocContract.Sorted.KeySet

namespace DocContract.Sorted

private theorem lookup_eq_some_iff {entries : List (String × α)} {key : String} {value : α}
    (sorted : (entries.map Prod.fst).Pairwise (· < ·)) :
    entries.lookup key = some value ↔ (key, value) ∈ entries := by
  induction entries with
  | nil => simp
  | cons entry rest ih =>
    obtain ⟨other, held⟩ := entry
    obtain ⟨first, remaining⟩ := List.pairwise_cons.mp sorted
    by_cases same : key = other
    · subst same
      have fresh : (key, value) ∉ rest := by
        intro later
        exact absurd (first key (List.mem_map.mpr ⟨_, later, rfl⟩)) (String.lt_irrefl key)
      simp [fresh, eq_comm]
    · have different : (key == other) = false := beq_eq_false_iff_ne.mpr same
      simp [List.lookup_cons, different, same, ih remaining]

namespace KeyMap

theorem find?_eq_some_iff {map : KeyMap α} {key : String} {value : α} :
    map.find? key = some value ↔ (key, value) ∈ map.entries :=
  lookup_eq_some_iff map.sorted

private theorem lookup_cons {key other : String} {held : α} {rest : List (String × α)} :
    ((other, held) :: rest).lookup key = if key = other then some held else rest.lookup key := by
  rw [List.lookup_cons]
  by_cases same : key = other
  · simp [same]
  · simp [same, beq_eq_false_iff_ne.mpr same]

private theorem lookup_insertEntry {key name : String} {value : α} {entries : List (String × α)} :
    (insertEntry key value entries).lookup name =
      if name = key then some value else entries.lookup name := by
  induction entries with
  | nil => rw [insertEntry, lookup_cons]
  | cons entry rest ih =>
    obtain ⟨other, held⟩ := entry
    rw [insertEntry]
    split
    · rw [lookup_cons]
    · split
      · next own =>
        subst own
        rw [lookup_cons, lookup_cons]
        split <;> rfl
      · next distinct =>
        rw [lookup_cons, lookup_cons, ih]
        by_cases same : name = other
        · subst same
          simp [Ne.symm distinct]
        · simp [same]

theorem find?_insert {map : KeyMap α} {key name : String} {value : α} :
    (map.insert key value).find? name = if name = key then some value else map.find? name :=
  lookup_insertEntry

theorem find?_insertNew {map : KeyMap α} {key name : String} {value : α} :
    (map.insertNew key value).find? name =
      (map.find? name).or (if name = key then some value else none) := by
  rw [insertNew, contains]
  cases held : map.find? key with
  | some earlier =>
    by_cases same : name = key
    · subst same
      simp [held]
    · simp [same]
  | none =>
    rw [Option.isSome_none, if_neg Bool.false_ne_true, find?_insert]
    by_cases same : name = key
    · subst same
      simp [held]
    · simp [same]

/-- Of the items with a name the first one is found. -/
theorem find?_foldl_insertNew {map : KeyMap α} {name : α → String} (items : List α)
    (key : String) :
    (items.foldl (fun map item => map.insertNew (name item) item) map).find? key =
      (map.find? key).or (items.find? fun item => key == name item) := by
  induction items generalizing map with
  | nil => simp
  | cons item rest ih =>
    rw [List.foldl_cons, ih, find?_insertNew, Option.or_assoc]
    by_cases same : key = name item
    · simp [same]
    · rw [if_neg same, Option.none_or, List.find?_cons_of_neg (by simpa using same)]

theorem mem_keys_insert {map : KeyMap α} {key name : String} {value : α} :
    name ∈ (map.insert key value).keys ↔ name = key ∨ name ∈ map.keys :=
  mem_keys_insertEntry

theorem mem_keys_ofList {pairs : List (String × α)} {name : String} :
    name ∈ (ofList pairs).keys ↔ name ∈ pairs.map Prod.fst := by
  have general (map : KeyMap α) :
      name ∈ (pairs.foldl (fun map pair => map.insert pair.1 pair.2) map).keys ↔
        name ∈ pairs.map Prod.fst ∨ name ∈ map.keys := by
    induction pairs generalizing map with
    | nil => simp
    | cons pair rest ih =>
      rw [List.foldl_cons, ih, mem_keys_insert, List.map_cons, List.mem_cons]
      exact or_left_comm.trans or_assoc.symm
  have empty : name ∉ (KeyMap.empty : KeyMap α).keys := List.not_mem_nil
  exact (general KeyMap.empty).trans (or_iff_left empty)

end KeyMap

namespace KeySet

instance (set : KeySet) (name : String) : Decidable (name ∈ set) :=
  inferInstanceAs (Decidable (name ∈ set.members))

theorem mem_ofList {names : List String} {name : String} :
    name ∈ (ofList names).members ↔ name ∈ names := by
  have keys : name ∈ (KeyMap.ofList (names.map fun name => (name, ()))).keys ↔
      name ∈ (names.map fun name => (name, ())).map Prod.fst :=
    KeyMap.mem_keys_ofList
  rw [List.map_map] at keys
  simpa [ofList, ofKeys, Function.comp_def] using keys

theorem contains_iff_mem {set : KeySet} {name : String} :
    set.contains name = true ↔ name ∈ set :=
  List.contains_iff_mem

end KeySet

end DocContract.Sorted
