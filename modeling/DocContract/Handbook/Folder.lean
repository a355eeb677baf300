import DocContract.Files.Access
import DocContract.Handbook.Files

namespace DocContract.Handbook

/-- Why the files of a blueprint are not written. -/
inductive Fault where
  | refused (blueprint : Blueprint)
  | unwritable (path : String) (fault : FileFault)

def Fault.message : Fault → String
  | .refused blueprint => refusalMessage blueprint
  | .unwritable path fault => "failed to write output: " ++ path ++ ": " ++ fault.message

variable {m : Type → Type} [Monad m] [FileAccess m]

def writeFile (folder : String) (file : File) : ExceptT Fault m String := do
  let path := Pathname.join folder file.name
  ExceptT.adapt (.unwritable path) (FileAccess.writeText path file.text)
  return path

/-- Writes the files of the blueprint into the folder, which is made where it is missing, and gives
their paths. -/
def write (folder : String) (blueprint : Blueprint) : ExceptT Fault m (List String) :=
  match files? blueprint with
  | none => throw (.refused blueprint)
  | some files => do
    ExceptT.adapt (.unwritable folder) (FileAccess.ensureFolders folder)
    files.mapM (writeFile folder)

end DocContract.Handbook
