import DocContract.Sorted.KeyMap

namespace DocContract.Sorted

/-- A finite set of texts.  Its members increase, so each occurs once. -/
structure KeySet where
  members : List String
  sorted : members.Pairwise (· < ·) := by simp
  deriving DecidableEq

namespace KeySet

instance : Repr KeySet where
  reprPrec set precedence := reprPrec set.members precedence

def empty : KeySet := ⟨[], by simp⟩

instance : EmptyCollection KeySet := ⟨empty⟩

instance : Inhabited KeySet := ⟨empty⟩

instance : Membership String KeySet := ⟨fun set name => name ∈ set.members⟩

def ofKeys (map : KeyMap α) : KeySet :=
  ⟨map.keys, map.sorted⟩

def ofList (names : List String) : KeySet :=
  ofKeys (KeyMap.ofList (names.map fun name => (name, ())))

def contains (set : KeySet) (name : String) : Bool :=
  set.members.contains name

def isEmpty (set : KeySet) : Bool :=
  set.members.isEmpty

def union (left right : KeySet) : KeySet :=
  ofList (left.members ++ right.members)

end KeySet

end DocContract.Sorted
