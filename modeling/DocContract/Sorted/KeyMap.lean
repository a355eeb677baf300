namespace DocContract.Sorted

/-- Entries with the value stored under the key, in the place where the order wants it. -/
def insertEntry (key : String) (value : α) : List (String × α) → List (String × α)
  | [] => [(key, value)]
  | (other, held) :: rest =>
    if key < other then (key, value) :: (other, held) :: rest
    else if key = other then (key, value) :: rest
    else (other, held) :: insertEntry key value rest

private theorem later_of_not_before {key other : String} (before : ¬ key < other)
    (distinct : key ≠ other) : other < key := by
  apply Decidable.byContradiction
  intro behind
  exact distinct (String.le_antisymm (String.not_lt.mp behind) (String.not_lt.mp before))

theorem mem_keys_insertEntry {key name : String} {value : α} {entries : List (String × α)} :
    name ∈ (insertEntry key value entries).map Prod.fst ↔
      name = key ∨ name ∈ entries.map Prod.fst := by
  induction entries with
  | nil => simp [insertEntry]
  | cons entry rest ih =>
    obtain ⟨other, held⟩ := entry
    rw [insertEntry]
    split
    · simp
    · split
      · next same => subst same; simp
      · simp only [List.map_cons, List.mem_cons, ih]
        grind

theorem pairwise_insertEntry {key : String} {value : α} {entries : List (String × α)}
    (sorted : (entries.map Prod.fst).Pairwise (· < ·)) :
    ((insertEntry key value entries).map Prod.fst).Pairwise (· < ·) := by
  induction entries with
  | nil => simp [insertEntry]
  | cons entry rest ih =>
    obtain ⟨other, held⟩ := entry
    simp only [List.map_cons, List.pairwise_cons] at sorted
    obtain ⟨first, remaining⟩ := sorted
    rw [insertEntry]
    split
    · next before =>
      simp only [List.map_cons, List.pairwise_cons, List.mem_cons]
      refine ⟨?_, first, remaining⟩
      rintro name (rfl | member)
      · exact before
      · exact String.lt_trans before (first name member)
    · next notBefore =>
      split
      · next same =>
        subst same
        simp only [List.map_cons, List.pairwise_cons]
        exact ⟨first, remaining⟩
      · next distinct =>
        simp only [List.map_cons, List.pairwise_cons]
        refine ⟨?_, ih remaining⟩
        intro name member
        rcases mem_keys_insertEntry.mp member with rfl | member
        · exact later_of_not_before notBefore distinct
        · exact first name member

/-- A finite map from text to values.  Its keys increase, so each occurs once. -/
structure KeyMap (α : Type u) where
  entries : List (String × α)
  sorted : (entries.map Prod.fst).Pairwise (· < ·) := by simp

namespace KeyMap

instance [DecidableEq α] : DecidableEq (KeyMap α) := fun left right =>
  decidable_of_iff (left.entries = right.entries) <| by
    cases left; cases right; simp

instance [Repr α] : Repr (KeyMap α) where
  reprPrec map precedence := reprPrec map.entries precedence

def empty : KeyMap α := ⟨[], by simp⟩

instance : EmptyCollection (KeyMap α) := ⟨empty⟩

instance : Inhabited (KeyMap α) := ⟨empty⟩

/-- The map with the value stored under the key, instead of one stored there before. -/
def insert (map : KeyMap α) (key : String) (value : α) : KeyMap α :=
  ⟨insertEntry key value map.entries, pairwise_insertEntry map.sorted⟩

def find? (map : KeyMap α) (key : String) : Option α :=
  map.entries.lookup key

def contains (map : KeyMap α) (key : String) : Bool :=
  (map.find? key).isSome

def keys (map : KeyMap α) : List String :=
  map.entries.map Prod.fst

def values (map : KeyMap α) : List α :=
  map.entries.map Prod.snd

def isEmpty (map : KeyMap α) : Bool :=
  map.entries.isEmpty

/-- The map of the pairs; of two with the same key the later counts. -/
def ofList (pairs : List (String × α)) : KeyMap α :=
  pairs.foldl (fun map pair => map.insert pair.1 pair.2) empty

/-- The map with the value stored under the key unless one is stored there already. -/
def insertNew (map : KeyMap α) (key : String) (value : α) : KeyMap α :=
  if map.contains key then map else map.insert key value

def mapValues (map : KeyMap α) (change : String → α → β) : KeyMap β :=
  ⟨map.entries.map fun (key, value) => (key, change key value), by
    simpa [Function.comp_def] using map.sorted⟩

end KeyMap

end DocContract.Sorted
