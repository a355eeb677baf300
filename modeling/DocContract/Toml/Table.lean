import DocContract.Toml.Value

namespace DocContract.Toml

/-- How a table came about: by a header of its own, by the header of a table inside it, or by a key
with dots. -/
inductive Origin where
  | header
  | innerHeader
  | dottedKey
  deriving DecidableEq, Repr, Inhabited

/-- An entry of a table that is being built.  A plain value is complete and takes no more entries.
-/
inductive Node where
  | value (value : Value)
  | table (origin : Origin) (entries : List (String × Node))
  | tables (items : List (List (String × Node)))
  deriving Inhabited

abbrev Nodes := List (String × Node)

namespace Nodes

def replace (key : String) (node : Node) : Nodes → Nodes
  | [] => []
  | (other, held) :: rest =>
    if other = key then (key, node) :: rest else (other, held) :: replace key node rest

/-- Changes the table that the path leads to.  Tables that are not there yet are added.  A path
through a plain value leads nowhere, and that of a dotted key must not enter a table with a header
of its own.  A path through an array of tables goes on in the last of them. -/
def descend? (dotted : Bool) (change : Origin → Nodes → Option Nodes) :
    List String → Origin → Nodes → Option Nodes
  | [], origin, nodes => change origin nodes
  | key :: path, _, nodes =>
    match nodes.lookup key with
    | none =>
      let origin := if dotted then .dottedKey else .innerHeader
      (descend? dotted change path origin []).map fun entries =>
        nodes ++ [(key, .table origin entries)]
    | some (.value _) => none
    | some (.table origin entries) =>
      if dotted && origin == .header then none
      else (descend? dotted change path origin entries).map fun entries =>
        replace key (.table origin entries) nodes
    | some (.tables items) =>
      match items.getLast? with
      | none => none
      | some last =>
        (descend? dotted change path .header last).map fun entries =>
          replace key (.tables (items.dropLast ++ [entries])) nodes

/-- Adds a value under the key, which must be new.  A table takes keys with dots in front only if it
came about by such a key, and others only if it did not. -/
def addValue? (path : List String) (key : String) (value : Value) (origin : Origin)
    (nodes : Nodes) : Option Nodes :=
  if (origin == .dottedKey) == path.isEmpty then none
  else if (nodes.lookup key).isSome then none
  else some (nodes ++ [(key, .value value)])

/-- Adds a value under a key with dots to the table of that origin. -/
def assign? (key : List String) (value : Value) (origin : Origin) (nodes : Nodes) :
    Option Nodes :=
  match key.getLast? with
  | none => none
  | some last =>
    descend? true (addValue? key.dropLast last value) key.dropLast origin nodes

/-- Opens the table of a header.  One that is there only because of tables inside it moves to the
end; any other must be new. -/
def openTable? (path : List String) (nodes : Nodes) : Option Nodes :=
  match path.getLast? with
  | none => none
  | some key =>
    descend? false
      (fun _ parent =>
        match parent.lookup key with
        | none => some (parent ++ [(key, .table .header [])])
        | some (.table .innerHeader entries) =>
          some (parent.filter (fun entry => entry.1 != key) ++ [(key, .table .header entries)])
        | some _ => none)
      path.dropLast .header nodes

/-- Adds a table to the array of tables of a header. -/
def pushTable? (path : List String) (nodes : Nodes) : Option Nodes :=
  match path.getLast? with
  | none => none
  | some key =>
    descend? false
      (fun _ parent =>
        match parent.lookup key with
        | none => some (parent ++ [(key, .tables [[]])])
        | some (.tables items) => some (replace key (.tables (items ++ [[]])) parent)
        | some _ => none)
      path.dropLast .header nodes

/-- Adds a value under a key with dots to the table that the last header opened. -/
def assignIn? (header key : List String) (value : Value) (nodes : Nodes) : Option Nodes :=
  descend? false (assign? key value) header .header nodes

end Nodes

mutual

/-- The value of a complete entry. -/
def Node.toValue : Node → Value
  | .value value => value
  | .table _ entries => .table (Nodes.toEntries entries)
  | .tables items => .array (Nodes.toTables items)

def Nodes.toEntries : List (String × Node) → Entries
  | [] => []
  | (key, node) :: rest => (key, node.toValue) :: Nodes.toEntries rest

def Nodes.toTables : List (List (String × Node)) → List Value
  | [] => []
  | entries :: rest => .table (Nodes.toEntries entries) :: Nodes.toTables rest

end

end DocContract.Toml
