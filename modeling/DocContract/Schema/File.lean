import DocContract.Files.Access
import DocContract.Json.Parser
import DocContract.Schema.Digest

/-!
Schema files.  A file that records another digest than that of its contracts is refused.
-/

namespace DocContract

/-- Why a schema file cannot be used. -/
inductive SchemaFileFault where
  | unreadable (path : String) (fault : FileFault)
  | unwritable (path : String) (fault : FileFault)
  | noSchema (path : String)
  | unsupportedKind (path kind : String)
  | digestMismatch (path recorded computed : String)
  deriving DecidableEq, Repr

/-- The message of the fault.  What is wrong with a text that is no schema is not told. -/
def SchemaFileFault.message : SchemaFileFault → String
  | .unreadable path fault => "failed to read schema: " ++ path ++ ": " ++ fault.message
  | .unwritable path fault => "failed to write schema: " ++ path ++ ": " ++ fault.message
  | .noSchema path => "invalid schema json at " ++ path
  | .unsupportedKind path kind =>
    path ++ ": unsupported schema kind `" ++ kind ++ "` (expected `" ++ Schema.currentKind ++ "`)"
  | .digestMismatch path recorded computed =>
    path ++ ": digest mismatch: recorded " ++ recorded ++ ", computed " ++ computed

namespace Schema

/-- The schema that the text of the file at the path holds. -/
def ofText (path text : String) : Except SchemaFileFault Schema :=
  match (Json.parse? text).bind ofJson? with
  | none => .error (.noSchema path)
  | some schema =>
    let computed := contractsDigest schema.artifacts
    if schema.kind ≠ currentKind then .error (.unsupportedKind path schema.kind)
    else if schema.digest ≠ computed then .error (.digestMismatch path schema.digest computed)
    else .ok schema

variable {m : Type → Type} [Monad m] [FileAccess m]

def load (path : String) : ExceptT SchemaFileFault m Schema := do
  let text ← ExceptT.adapt (.unreadable path) (FileAccess.readText path)
  ExceptT.mk (return ofText path text)

/-- Writes the schema to the file at the path unless it is there already; tells whether it was
not. -/
def save (path : String) (schema : Schema) : ExceptT SchemaFileFault m Bool := do
  let rendered := schema.render
  let held ← (FileAccess.readText path : ExceptT FileFault m String).run
  if held.toOption = some rendered then return false
  ExceptT.adapt (.unwritable path) (FileAccess.writeInFolders path rendered)
  return true

end Schema

end DocContract
