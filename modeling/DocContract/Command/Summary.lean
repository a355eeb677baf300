import DocContract.Command.Outcome
import DocContract.Identifier.Mention
import DocContract.Outline.Heading
import DocContract.Report

namespace DocContract.Command

open DocContract.Identifier DocContract.Outline DocContract.Text

/-- What compiling did: where the schema is, whether its file changed, and the blueprints that were
skipped because of their problems. -/
structure CompileSummary where
  out : String
  changed : Bool
  schema : Schema
  skipped : List Blueprint

namespace CompileSummary

def toJson (summary : CompileSummary) : Json :=
  .object
    [("out", .string summary.out), ("changed", .bool summary.changed),
      ("digest", .string summary.schema.digest),
      ("artifacts", .strings summary.schema.artifacts.keys),
      ("skipped", .array (summary.skipped.map fun blueprint => .object
        [("path", .string blueprint.path), ("errors", .strings blueprint.errorMessages)]))]

def lines (summary : CompileSummary) : List String :=
  ["cpt compile", "  Output: " ++ summary.out,
    "  Changed: " ++ (if summary.changed then "yes" else "no (identical)"),
    "  Digest: " ++ summary.schema.digest, "  Artifacts:"] ++
  (summary.schema.artifacts.entries.map fun (kind, contract) =>
    "    - " ++ kind ++ ": " ++ natText contract.headings.length ++ " heading(s), " ++
      natText contract.definedIds.entries.length ++ " id kind(s)") ++
  summary.skipped.flatMap fun blueprint =>
    ("  Skipped: " ++ blueprint.path) :: blueprint.errorMessages.map ("    - " ++ ·)

end CompileSummary

structure GenerateSummary where
  blueprint : Blueprint
  written : List String

namespace GenerateSummary

def toJson (summary : GenerateSummary) : Json :=
  .object
    [("artifact", .string summary.blueprint.artifactKind),
      ("blueprint", .string summary.blueprint.path),
      ("codebase", .bool summary.blueprint.codebase), ("written", .strings summary.written)]

def lines (summary : GenerateSummary) : List String :=
  ["cpt generate", "  Blueprint: " ++ summary.blueprint.path,
    "  Artifact: " ++ summary.blueprint.artifactKind, "  Written:"] ++
  summary.written.map ("    - " ++ ·)

end GenerateSummary

/-- A blueprint from which nothing is generated, with its problems. -/
def refusalJson (blueprint : Blueprint) : Json :=
  .object [("blueprint", .string blueprint.path), ("errors", .strings blueprint.errorMessages)]

def refusalLines (blueprint : Blueprint) : List String :=
  ("error: " ++ blueprint.path ++ " has parse errors; nothing generated") ::
    blueprint.errorMessages.map ("  - " ++ ·)

/-- The issues of one severity with a title, which is left out with them. -/
def issueLines (title : String) (issues : List Issue) : List String :=
  if issues.isEmpty then []
  else
    ("  " ++ title ++ " (" ++ natText issues.length ++ "):") ::
      issues.map fun issue => "    - " ++ issue.display

def reportLines (documents : Nat) (report : Report) : List String :=
  ["cpt validate", "  Documents: " ++ natText documents, "  Result: " ++ report.status.name] ++
  issueLines "Errors" report.errors ++ issueLines "Warnings" report.warnings

structure ScanSummary where
  file : String
  headings : List Heading
  ids : List Mention

namespace ScanSummary

def toJson (summary : ScanSummary) : Json :=
  .object
    [("headings", .array (summary.headings.map Heading.toJson)),
      ("ids", .array (summary.ids.map Mention.toJson)), ("path", .string summary.file)]

/-- A line number on the right of four columns. -/
def column (line : Nat) : String :=
  "    " ++ String.ofList ((natText line).toList.leftpad 4 ' ') ++ "  "

def headingLine (heading : Heading) : String :=
  column heading.line ++ String.ofList (List.replicate heading.level.toNat '#') ++ " " ++
    heading.title

def checkBox (mention : Mention) : String :=
  if !mention.hasTask then "   " else if mention.checked then "[x]" else "[ ]"

def mentionLine (mention : Mention) : String :=
  let role := match mention.role with
    | .definition => "def"
    | .reference => "ref"
  column mention.line ++ role ++ " " ++ checkBox mention ++ " " ++ mention.id

def lines (summary : ScanSummary) : List String :=
  ["cpt scan", "  File: " ++ summary.file, "  Headings:"] ++ summary.headings.map headingLine ++
  "  Identifiers:" :: summary.ids.map mentionLine

end ScanSummary

end DocContract.Command
