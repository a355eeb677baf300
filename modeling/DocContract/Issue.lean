import DocContract.Json.Record
import DocContract.Sorted.KeyMap
import DocContract.Text.Digit

namespace DocContract

open DocContract.Sorted DocContract.Text

/-- What is wrong. -/
inductive IssueCode where
  | fileReadFailed
  | artifactKindUnknown
  | headingMissing
  | headingProhibitsMultiple
  | headingRequiresMultiple
  | headingNumberingRequired
  | headingNumberingProhibited
  | headingNumberSequence
  | idKindNotAllowed
  | idTaskRequired
  | idTaskProhibited
  | idPriorityRequired
  | idPriorityProhibited
  | idWrongHeading
  | idDuplicateDefinition
  | parentUncheckedAllDone
  | parentCheckedNestedUnchecked
  | requiredIdKindMissing
  | refNoDefinition
  | refDoneDefNotDone
  | defDoneRefNotDone
  | refTaskDefNoTask
  | refMissingFromKind
  | refWrongHeadings
  | refTargetNotInScope
  | refFromProhibitedKind
  | refTaskRequired
  | refTaskProhibited
  | refPriorityRequired
  | refPriorityProhibited
  | defDuplicateAcrossDocuments
  | codeRefMissing
  deriving DecidableEq, Repr, Inhabited

namespace IssueCode

def name : IssueCode → String
  | .fileReadFailed => "FILE_READ_FAILED"
  | .artifactKindUnknown => "ARTIFACT_KIND_UNKNOWN"
  | .headingMissing => "HEADING_MISSING"
  | .headingProhibitsMultiple => "HEADING_PROHIBITS_MULTIPLE"
  | .headingRequiresMultiple => "HEADING_REQUIRES_MULTIPLE"
  | .headingNumberingRequired => "HEADING_NUMBERING_REQUIRED"
  | .headingNumberingProhibited => "HEADING_NUMBERING_PROHIBITED"
  | .headingNumberSequence => "HEADING_NUMBER_SEQUENCE"
  | .idKindNotAllowed => "ID_KIND_NOT_ALLOWED"
  | .idTaskRequired => "ID_TASK_REQUIRED"
  | .idTaskProhibited => "ID_TASK_PROHIBITED"
  | .idPriorityRequired => "ID_PRIORITY_REQUIRED"
  | .idPriorityProhibited => "ID_PRIORITY_PROHIBITED"
  | .idWrongHeading => "ID_WRONG_HEADING"
  | .idDuplicateDefinition => "ID_DUPLICATE_DEFINITION"
  | .parentUncheckedAllDone => "PARENT_UNCHECKED_ALL_DONE"
  | .parentCheckedNestedUnchecked => "PARENT_CHECKED_NESTED_UNCHECKED"
  | .requiredIdKindMissing => "REQUIRED_ID_KIND_MISSING"
  | .refNoDefinition => "REF_NO_DEFINITION"
  | .refDoneDefNotDone => "REF_DONE_DEF_NOT_DONE"
  | .defDoneRefNotDone => "DEF_DONE_REF_NOT_DONE"
  | .refTaskDefNoTask => "REF_TASK_DEF_NO_TASK"
  | .refMissingFromKind => "REF_MISSING_FROM_KIND"
  | .refWrongHeadings => "REF_WRONG_HEADINGS"
  | .refTargetNotInScope => "REF_TARGET_NOT_IN_SCOPE"
  | .refFromProhibitedKind => "REF_FROM_PROHIBITED_KIND"
  | .refTaskRequired => "REF_TASK_REQUIRED"
  | .refTaskProhibited => "REF_TASK_PROHIBITED"
  | .refPriorityRequired => "REF_PRIORITY_REQUIRED"
  | .refPriorityProhibited => "REF_PRIORITY_PROHIBITED"
  | .defDuplicateAcrossDocuments => "DEF_DUPLICATE_ACROSS_DOCUMENTS"
  | .codeRefMissing => "CODE_REF_MISSING"

def all : List IssueCode :=
  [
    .fileReadFailed, .artifactKindUnknown, .headingMissing, .headingProhibitsMultiple,
    .headingRequiresMultiple, .headingNumberingRequired, .headingNumberingProhibited,
    .headingNumberSequence, .idKindNotAllowed, .idTaskRequired, .idTaskProhibited,
    .idPriorityRequired, .idPriorityProhibited, .idWrongHeading, .idDuplicateDefinition,
    .parentUncheckedAllDone, .parentCheckedNestedUnchecked, .requiredIdKindMissing,
    .refNoDefinition, .refDoneDefNotDone, .defDoneRefNotDone, .refTaskDefNoTask,
    .refMissingFromKind, .refWrongHeadings, .refTargetNotInScope, .refFromProhibitedKind,
    .refTaskRequired, .refTaskProhibited, .refPriorityRequired, .refPriorityProhibited,
    .defDuplicateAcrossDocuments, .codeRefMissing
  ]

def ofName? (name : String) : Option IssueCode :=
  all.find? fun code => code.name = name

end IssueCode

/-- Whether an issue makes the document set fail. -/
inductive Severity where
  | error
  | warning
  deriving DecidableEq, Repr, Inhabited

namespace Severity

def name : Severity → String
  | error => "error"
  | warning => "warning"

def ofName? : String → Option Severity
  | "error" => some error
  | "warning" => some warning
  | _ => none

end Severity

/-- A finding with the place it was made at.  The context tells what was expected and what was
found, by keys that depend on the code. -/
structure Issue where
  code : IssueCode
  severity : Severity
  message : String
  path : String
  line : Option Nat
  context : KeyMap Json
  deriving Inhabited

namespace Issue

/-- An issue with the entries of its context. -/
def ofEntries (severity : Severity) (code : IssueCode) (path : String) (line : Option Nat)
    (message : String) (context : List (String × Json)) : Issue :=
  { code, severity, message, path, line, context := KeyMap.ofList context }

def isError (issue : Issue) : Bool :=
  issue.severity == .error

def display (issue : Issue) : String :=
  let place := match issue.line with
    | some line => issue.path ++ ":" ++ natText line
    | none => issue.path
  place ++ ": [" ++ issue.code.name ++ "] " ++ issue.message

/-- The members of the issue's JSON object, the context behind the others. -/
def members (issue : Issue) : List (String × Json) :=
  [("code", .string issue.code.name), ("severity", .string issue.severity.name),
    ("message", .string issue.message), ("path", .string issue.path)] ++
  (issue.line.map fun line => ("line", Json.nat line)).toList ++ issue.context.entries

def toJson (issue : Issue) : Json :=
  .object issue.members

/-- The keys of the members that are no context. -/
def ownKeys : List String :=
  ["code", "severity", "message", "path", "line"]

def ofJson? (value : Json) : Option Issue := do
  let .object members := value | none
  let [code, severity, message, path, line] ← Json.fields? ownKeys value | none
  let code ← (code.bind Json.variant?).bind IssueCode.ofName?
  let severity ← (severity.bind Json.variant?).bind Severity.ofName?
  let message ← message.bind Json.text?
  let path ← path.bind Json.text?
  let line ← Json.optional? (Json.below? UInt64.size) line
  some { code, severity, message, path, line,
         context := KeyMap.ofList (members.filter fun member => !ownKeys.contains member.1) }

end Issue

end DocContract
