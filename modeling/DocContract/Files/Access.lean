import DocContract.Pathname

namespace DocContract

/-- Why a path cannot be read, written or made a folder. -/
inductive FileFault where
  | missing
  | occupied
  | throughFile
  | isFolder
  | notText
  | other (text : String)
  deriving DecidableEq, Repr, Inhabited

def FileFault.message : FileFault → String
  | .missing => "No such file or directory (os error 2)"
  | .occupied => "File exists (os error 17)"
  | .throughFile => "Not a directory (os error 20)"
  | .isFolder => "Is a directory (os error 21)"
  | .notText => "stream did not contain valid UTF-8"
  | .other text => text

/-- Access to files by their paths.  A text is read and written as a whole, and a folder is made
inside one that exists. -/
class FileAccess (m : Type → Type) where
  readText : String → ExceptT FileFault m String
  writeText : String → String → ExceptT FileFault m Unit
  makeFolder : String → ExceptT FileFault m Unit

namespace FileAccess

variable {m : Type → Type} [Monad m] [FileAccess m]

def isFolder (path : String) : m Bool := do
  return (← (readText path).run) matches .error .isFolder

/-- Whether the path leads to a file, of text or not. -/
def isFile (path : String) : m Bool := do
  match ← (readText path).run with
  | .ok _ => return true
  | .error fault => return fault = .notText

def ensureFolder (path : String) : ExceptT FileFault m Unit :=
  tryCatch (makeFolder path) fun fault => do
    if fault ≠ .missing ∧ (← (isFolder path : m Bool)) then return
    throw fault

/-- Makes the first of the folders; where it cannot be made because those around it are missing,
they are made before. -/
def ensureFirst : List String → ExceptT FileFault m Unit
  | [] => return
  | path :: around =>
    tryCatch (ensureFolder path) fun fault => do
      if fault ≠ .missing then throw fault
      ensureFirst around
      ensureFolder path

/-- Makes the folder and all that are missing on the way to it. -/
def ensureFolders (path : String) : ExceptT FileFault m Unit :=
  ensureFirst (Pathname.upwards path)

/-- Writes the text; folders that are missing on the way to the file are made. -/
def writeInFolders (path text : String) : ExceptT FileFault m Unit := do
  ensureFolders ((Pathname.parent? path).getD "")
  writeText path text

end FileAccess

end DocContract
