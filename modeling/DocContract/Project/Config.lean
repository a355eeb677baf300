import DocContract.Files.Access
import DocContract.Project.Spec
import DocContract.Toml.Document

namespace DocContract

open DocContract.Toml

/-- What a configuration file declares.  Without a list of code references they are not checked. -/
structure Config where
  schema : Option String := none
  systems : List String := []
  externalSystems : List String := []
  codeReferences : Option (List String) := none
  artifacts : List ArtifactSpec := []
  deriving DecidableEq, Repr, Inhabited

inductive ConfigFault where
  | unreadable (path : String) (fault : FileFault)
  | noConfig (path : String)
  | missingSchema (path : String)
  deriving DecidableEq, Repr

def ConfigFault.message : ConfigFault → String
  | .unreadable path fault => "failed to read config: " ++ path ++ ": " ++ fault.message
  | .noConfig path => "invalid config toml at " ++ path
  | .missingSchema path => path ++ ": missing `schema` (set it in the config or pass --schema)"

namespace Config

/-- The configuration file of a folder. -/
def defaultPath : String := "cpt.toml"

def text? : Value → Option String
  | .string text => some text
  | _ => none

def texts? : Value → Option (List String)
  | .array items => items.mapM text?
  | _ => none

/-- A document: a table with its path and kind, or an array that starts with them. -/
def artifact? : Value → Option ArtifactSpec
  | .table entries => do
    some ⟨← text? (← entries.lookup "path"), ← text? (← entries.lookup "kind")⟩
  | .array (path :: kind :: _) => do some ⟨← text? path, ← text? kind⟩
  | _ => none

def artifacts? : Value → Option (List ArtifactSpec)
  | .array items => items.mapM artifact?
  | _ => none

/-- The configuration with one more entry read. -/
def withEntry? (config : Config) (key : String) (value : Value) : Option Config :=
  match key with
  | "schema" => (text? value).map fun schema => { config with schema := some schema }
  | "systems" => (texts? value).map fun systems => { config with systems }
  | "external_systems" =>
    (texts? value).map fun externalSystems => { config with externalSystems }
  | "code_references" =>
    (texts? value).map fun references => { config with codeReferences := some references }
  | "artifacts" => (artifacts? value).map fun artifacts => { config with artifacts }
  | _ => none

/-- The configuration that the entries declare.  There may be no others than the known ones. -/
def ofEntries? (entries : Entries) : Option Config :=
  entries.foldlM (fun config (key, value) => config.withEntry? key value) {}

/-- The configuration with its paths leading from where the folder is. -/
def rebase (folder : String) (config : Config) : Config :=
  { config with
    schema := config.schema.map (Pathname.join folder)
    artifacts := config.artifacts.map fun spec =>
      { spec with path := Pathname.join folder spec.path } }

def ofText (path text : String) : Except ConfigFault Config :=
  match (Toml.parse? text).bind ofEntries? with
  | none => .error (.noConfig path)
  | some config => .ok (config.rebase ((Pathname.parent? path).getD ""))

/-- The path of the schema that the configuration at the path names. -/
def schemaPath (config : Config) (path : String) : Except ConfigFault String :=
  match config.schema with
  | some schema => .ok schema
  | none => .error (.missingSchema path)

def load {m : Type → Type} [Monad m] [FileAccess m] (path : String) :
    ExceptT ConfigFault m Config := do
  let text ← ExceptT.adapt (.unreadable path) (FileAccess.readText path)
  ExceptT.mk (return ofText path text)

end Config

end DocContract
