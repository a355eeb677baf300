import DocContract.Files.Access
import DocContract.Project.Spec
import DocContract.Validation.Document

/-!
Validating documents where they are stored.  One that cannot be read is an issue of the report.
-/

namespace DocContract.Validation

variable {m : Type → Type} [Monad m] [FileAccess m]

/-- The named document, or why it cannot be read. -/
def loadDocument (spec : ArtifactSpec) : m (Except ReadFailure Document) := do
  match ← (FileAccess.readText spec.path : ExceptT FileFault m String).run with
  | .ok text => return .ok ⟨spec.path, spec.kind, text⟩
  | .error fault => return .error ⟨spec.path, spec.kind, fault.message⟩

def validatePaths (context : Context) (specs : List ArtifactSpec) : m Report := do
  let loaded ← specs.mapM loadDocument
  return validateReadable context
    (loaded.filterMap fun | .error failure => some failure | .ok _ => none)
    (loaded.filterMap Except.toOption)

end DocContract.Validation
