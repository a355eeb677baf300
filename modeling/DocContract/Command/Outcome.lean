import DocContract.Handbook.Folder
import DocContract.Project.Config
import DocContract.Schema.Compile
import DocContract.Schema.File

namespace DocContract.Command

/-- What a command that comes to its end leaves behind: its exit code and what it prints. -/
structure Outcome where
  exitCode : Nat := 0
  output : String := ""
  errors : String := ""
  deriving DecidableEq, Repr, Inhabited

/-- Why a command cannot come to its end. -/
inductive Failure where
  | unreadableBlueprint (path : String) (fault : FileFault)
  | unreadableFile (path : String) (fault : FileFault)
  | uncompilable (fault : CompileFault)
  | schemaFile (fault : SchemaFileFault)
  | handbook (fault : Handbook.Fault)
  | config (fault : ConfigFault)
  | invalidSpec (text : String)
  | noDocuments

def Failure.message : Failure → String
  | .unreadableBlueprint path fault =>
    "failed to read blueprint: " ++ path ++ ": " ++ fault.message
  | .unreadableFile path fault => "failed to read " ++ path ++ ": " ++ fault.message
  | .uncompilable fault => "compile failed: " ++ fault.message
  | .schemaFile fault => fault.message
  | .handbook fault => fault.message
  | .config fault => fault.message
  | .invalidSpec text => ArtifactSpec.faultMessage text
  | .noDocuments => "no documents to validate"

/-- A failed command has exit code 2 and prints nothing but why. -/
def Failure.outcome (failure : Failure) : Outcome where
  exitCode := 2
  errors := "error: " ++ failure.message ++ "\n"

def textOfLines (lines : List String) : String :=
  String.join (lines.map (· ++ "\n"))

def textOfJson (value : Json) : String :=
  value.indented ++ "\n"

end DocContract.Command
