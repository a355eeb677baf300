/-!
The hierarchy that the levels of an outline imply.  Entries are addressed by their positions.
-/

namespace DocContract.Hierarchy

def levelAt (levels : List UInt8) (index : Nat) : UInt8 :=
  levels.getD index 0

/-- The entry that the one at the position stands under: the nearest one before it with a lesser
level. -/
def parent? (levels : List UInt8) (index : Nat) : Option Nat :=
  ((List.range index).filter fun other => levelAt levels other < levelAt levels index).getLast?

/-- The next entry of the same level, unless one of a lesser level comes before it. -/
def nextSibling? (levels : List UInt8) (index : Nat) : Option Nat :=
  ((List.range levels.length).find? fun other =>
      index < other && levelAt levels other ≤ levelAt levels index).filter
    fun other => levelAt levels other == levelAt levels index

/-- What siblings have in common: what they stand under, and their level. -/
def family (levels : List UInt8) (index : Nat) : Option Nat × UInt8 :=
  (parent? levels index, levelAt levels index)

def families (levels : List UInt8) : List (Option Nat × UInt8) :=
  (List.range levels.length).map (family levels)

/-- The siblings of the entry, itself among them, in their order. -/
def siblings (families : List (Option Nat × UInt8)) (index : Nat) : List Nat :=
  (List.range families.length).filter fun other => families[other]? == families[index]?

def siblingBefore? (families : List (Option Nat × UInt8)) (index : Nat) : Option Nat :=
  ((siblings families index).filter (· < index)).getLast?

def siblingAfter? (families : List (Option Nat × UInt8)) (index : Nat) : Option Nat :=
  ((siblings families index).filter (index < ·)).head?

end DocContract.Hierarchy
