import DocContract.Files.Access
import DocContract.Text.Blank
import DocContract.Text.Line

namespace DocContract

open DocContract.Text

inductive Content where
  | text (text : String)
  | bytes
  deriving DecidableEq, Repr, Inhabited

inductive Entry where
  | folder
  | file (content : Content)
  deriving DecidableEq, Repr, Inhabited

/-- A place in the tree: the names on the way from the root, the last one first. -/
abbrev Place := List String

/-- The place that a part of a path leads to.  The root is above itself. -/
def Place.follow (place : Place) (part : List Char) : Place :=
  if part = [] ∨ part = ['.'] then place
  else if part = ['.', '.'] then place.tail
  else String.ofList part :: place

/-- The folders and files of a tree, and the folder that paths lead from. -/
structure FileStore where
  entries : List (Place × Entry)
  base : Place
  deriving DecidableEq, Repr, Inhabited

namespace FileStore

/-- A tree with one folder, from which paths lead. -/
def ofFolder (name : String) : FileStore where
  entries := [([name], .folder)]
  base := [name]

/-- What stands at the place.  The root is a folder. -/
def entryAt? (store : FileStore) (place : Place) : Option Entry :=
  if place = [] then some .folder else store.entries.lookup place

def erase (store : FileStore) (place : Place) : FileStore :=
  { store with entries := store.entries.filter fun entry => entry.1 != place }

/-- The tree with the entry at the place, instead of one that stands there. -/
def put (store : FileStore) (place : Place) (entry : Entry) : FileStore :=
  { store with entries := (place, entry) :: (store.erase place).entries }

/-- The place at the end of the parts of a path, each of which leads on from a folder. -/
def walk (store : FileStore) : Place → List (List Char) → Except FileFault Place
  | place, [] => .ok place
  | place, part :: parts =>
    match store.entryAt? place with
    | none => .error .missing
    | some (.file _) => .error .throughFile
    | some .folder => store.walk (Place.follow place part) parts

def locate (store : FileStore) (path : List Char) : Except FileFault Place :=
  if path = [] then .error .missing
  else store.walk (if path.head? = some '/' then [] else store.base) (splitAt '/' path)

def content (store : FileStore) (path : String) : Except FileFault Content := do
  match store.entryAt? (← store.locate path.toList) with
  | none => throw .missing
  | some .folder => throw .isFolder
  | some (.file content) => return content

def readText (store : FileStore) (path : String) : Except FileFault String := do
  match ← store.content path with
  | .text text => return text
  | .bytes => throw .notText

def withoutSlashes (path : String) : List Char :=
  match dropEndWhile (· == '/') path.toList with
  | [] => path.toList.take 1
  | chars => chars

/-- The tree with the content in the file that the path leads to.  A slash at the end names a
folder. -/
def write (store : FileStore) (path : String) (content : Content) : Except FileFault FileStore := do
  let place ← store.locate (withoutSlashes path)
  if path.toList.getLast? = some '/' ∨ store.entryAt? place = some .folder then throw .isFolder
  return store.put place (.file content)

/-- The tree with a folder where the path leads to and nothing stands. -/
def makeFolder (store : FileStore) (path : String) : Except FileFault FileStore := do
  let place ← store.locate (withoutSlashes path)
  if (store.entryAt? place).isSome then throw .occupied
  return store.put place .folder

def remove (store : FileStore) (path : String) : Except FileFault FileStore := do
  let _ ← store.content path
  return store.erase (← store.locate path.toList)

/-- The path that leads from the base to the file, if that is below it. -/
def pathBelow? (store : FileStore) (place : Place) : Option String :=
  let names := place.reverse
  let base := store.base.reverse
  if base.isPrefixOf names then some ("/".intercalate (names.drop base.length)) else none

def files (store : FileStore) : List String :=
  let paths := store.entries.filterMap fun (place, entry) =>
    if entry = .folder then none else store.pathBelow? place
  paths.mergeSort fun first second => !(second < first)

/-- A change of the tree, which stays as it is where the change fails. -/
def change (next : FileStore → Except FileFault FileStore) :
    ExceptT FileFault (StateM FileStore) Unit := do
  match next (← get) with
  | .ok store => set store
  | .error fault => throw fault

instance : FileAccess (StateM FileStore) where
  readText path := do ExceptT.mk (return (← get).readText path)
  writeText path text := change fun store => store.write path (.text text)
  makeFolder path := change fun store => store.makeFolder path

end FileStore

end DocContract
