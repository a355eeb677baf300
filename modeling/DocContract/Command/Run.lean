import DocContract.Command.Request
import DocContract.Command.Summary
import DocContract.Project.Documents

namespace DocContract.Command

variable {m : Type → Type} [Monad m] [FileAccess m]

def loadBlueprint (path : String) : ExceptT Failure m Blueprint := do
  let text ← ExceptT.adapt (.unreadableBlueprint path) (FileAccess.readText path)
  return Blueprint.parse path text

/-- Prints the value as JSON if that is asked for, and else the lines. -/
def printed (json : Bool) (value : Json) (lines : List String) : String :=
  if json then textOfJson value else textOfLines lines

/-- Compiles the blueprints without problems and writes the schema.  The exit code is 1 if there are
others. -/
def CompileRequest.run (request : CompileRequest) : ExceptT Failure m Outcome := do
  let blueprints ← request.blueprints.mapM loadBlueprint
  let schema ← ExceptT.mk (return (Schema.compile (blueprints.filter fun blueprint =>
    !blueprint.hasErrors)).mapError .uncompilable)
  let changed ← ExceptT.adapt .schemaFile (schema.save request.out)
  let skipped := blueprints.filter (·.hasErrors)
  let summary : CompileSummary := ⟨request.out, changed, schema, skipped⟩
  return {
    exitCode := if skipped.isEmpty then 0 else 1
    output := printed request.json summary.toJson summary.lines }

/-- Generates the files of the blueprint.  The exit code is 1 if it has problems. -/
def GenerateRequest.run (request : GenerateRequest) : ExceptT Failure m Outcome := do
  let blueprint ← loadBlueprint request.blueprint
  match ← (Handbook.write request.folder blueprint : ExceptT Handbook.Fault m _).run with
  | .ok written =>
    let summary : GenerateSummary := ⟨blueprint, written⟩
    return { output := printed request.json summary.toJson summary.lines }
  | .error (.refused blueprint) =>
    if request.json then
      return { exitCode := 1, output := textOfJson (refusalJson blueprint) }
    return { exitCode := 1, errors := textOfLines (refusalLines blueprint) }
  | .error fault => throw (.handbook fault)

/-- What is validated, from the configuration and the command line together. -/
structure Plan where
  schema : String
  systems : List String
  externalSystems : List String
  codeReferences : Option (List String)
  artifacts : List ArtifactSpec
  deriving DecidableEq, Repr, Inhabited

namespace ValidateRequest

/-- The configuration file that counts: the one named, or else that of the folder. -/
def configPath? (request : ValidateRequest) : m (Option String) := do
  match request.config with
  | some path => return some path
  | none => return if ← FileAccess.isFile Config.defaultPath then some Config.defaultPath else none

/-- The schema file: the one named, or else that of the configuration, or else the usual one. -/
def schemaPath (request : ValidateRequest) (config : Config) (configPath : Option String) :
    Except ConfigFault String :=
  match request.schema, configPath with
  | some path, _ => .ok path
  | none, some configPath => config.schemaPath configPath
  | none, none => .ok "constraints.json"

def specs (request : ValidateRequest) (config : Config) : Except Failure (List ArtifactSpec) := do
  let named ← request.artifacts.mapM fun text =>
    match ArtifactSpec.parse? text with
    | some spec => .ok spec
    | none => .error (.invalidSpec text)
  match config.artifacts ++ named with
  | [] => throw .noDocuments
  | specs => return specs

/-- The code references of the configuration and those named, if there is any of either. -/
def references (request : ValidateRequest) (config : Config) : Option (List String) :=
  match config.codeReferences, request.codeReferences with
  | none, [] => none
  | configured, named => some (configured.getD [] ++ named)

/-- What the request and the configuration from that path, if there is one, ask for together. -/
def plan (request : ValidateRequest) (config : Config) (configPath : Option String) :
    Except Failure Plan := do
  let schema ← (request.schemaPath config configPath).mapError .config
  return {
    schema
    artifacts := ← request.specs config
    systems := config.systems ++ request.systems
    externalSystems := config.externalSystems ++ request.externalSystems
    codeReferences := request.references config }

/-- Validates the documents.  The exit code is 1 if there are errors. -/
def run (request : ValidateRequest) : ExceptT Failure m Outcome := do
  let configPath ← (request.configPath? : m (Option String))
  let config ← match configPath with
    | some path => ExceptT.adapt .config (Config.load path)
    | none => pure {}
  let plan ← ExceptT.mk (return request.plan config configPath)
  let schema ← ExceptT.adapt .schemaFile (Schema.load plan.schema)
  let context := Validation.Context.ofSchema schema plan.systems plan.externalSystems
    plan.codeReferences
  let report ← (Validation.validatePaths context plan.artifacts : m Report)
  return {
    exitCode := if report.passed then 0 else 1
    output := printed request.json report.toJson (reportLines plan.artifacts.length report) }

end ValidateRequest

def ScanRequest.run (request : ScanRequest) : ExceptT Failure m Outcome := do
  let text ← ExceptT.adapt (.unreadableFile request.file) (FileAccess.readText request.file)
  let summary : ScanSummary :=
    ⟨request.file, Outline.scanHeadings text, Identifier.scanIdentifiers text⟩
  return { output := printed request.json summary.toJson summary.lines }

/-- Does what is asked for, or tells why it cannot be done. -/
def Request.run : Request → ExceptT Failure m Outcome
  | .compile request => request.run
  | .generate request => request.run
  | .validate request => request.run
  | .scan request => request.run
  | .help topic => return { output := topic.text }
  | .version => return { output := versionText }

def Request.outcome (request : Request) : m Outcome := do
  match ← request.run.run with
  | .ok outcome => return outcome
  | .error failure => return failure.outcome

end DocContract.Command
