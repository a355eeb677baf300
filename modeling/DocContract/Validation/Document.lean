import DocContract.Outline.Check
import DocContract.Report
import DocContract.Validation.Cross

namespace DocContract.Validation

open DocContract.Identifier DocContract.Outline

/-- A document and the kind of artifact that it is validated as. -/
structure Document where
  path : String
  artifactKind : String
  text : String
  deriving DecidableEq, Repr, Inhabited

structure Outcome where
  issues : List Issue
  scan : Option DocumentScan
  deriving Inhabited

/-- The schema does not know the kind of the document. -/
def unknownKindIssue (context : Context) (document : Document) : Issue :=
  .ofEntries .error .artifactKindUnknown document.path none
    ("artifact kind `" ++ document.artifactKind ++ "` is not in the schema")
    [("artifact_kind", .string document.artifactKind),
      ("known", .strings context.schema.artifacts.keys)]

/-- The outline of the document and its identifiers, by the contract of its kind. -/
def readDocument (context : Context) (contract : Contract) (document : Document) :
    OutlineReport × List Occurrence :=
  let outline := Outline.check document.path contract (scanHeadings document.text)
  (outline, resolve context.grammar outline.scopes (scanIdentifiers document.text))

/-- Validates one document.  Its identifiers are checked only if its outline is as it should be. -/
def validateDocument (context : Context) (document : Document) : Outcome :=
  match context.schema.artifact? document.artifactKind with
  | none => ⟨[unknownKindIssue context document], none⟩
  | some contract =>
    let (outline, occurrences) := readDocument context contract document
    { issues := outline.issues ++
        if outline.hasErrors then []
        else Identifier.check document.path contract occurrences outline.scopes
      scan := some ⟨document.path, document.artifactKind, occurrences⟩ }

/-- The issues of each document and then those across all. -/
def documentIssues (context : Context) (documents : List Document) : List Issue :=
  let outcomes := documents.map (validateDocument context)
  outcomes.flatMap (·.issues) ++ checkAcross context (outcomes.filterMap (·.scan))

/-- The report on a set of documents. -/
def validateDocuments (context : Context) (documents : List Document) : Report :=
  .ofIssues (documentIssues context documents)

structure ReadFailure where
  path : String
  artifactKind : String
  reason : String
  deriving DecidableEq, Repr, Inhabited

def ReadFailure.toIssue (failure : ReadFailure) : Issue :=
  .ofEntries .error .fileReadFailed failure.path none
    ("failed to read document: " ++ failure.reason)
    [("artifact_kind", .string failure.artifactKind)]

/-- The report on documents of which some cannot be read. -/
def validateReadable (context : Context) (failures : List ReadFailure)
    (documents : List Document) : Report :=
  .ofIssues (failures.map (·.toIssue) ++ documentIssues context documents)

end DocContract.Validation
