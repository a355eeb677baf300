import DocContract.Identifier.Check
import DocContract.Validation.Context

namespace DocContract.Validation

open DocContract.Identifier DocContract.Sorted DocContract.Text

/-- A document whose identifiers have been read. -/
structure DocumentScan where
  path : String
  artifactKind : String
  occurrences : List Occurrence
  deriving DecidableEq, Repr, Inhabited

/-- An occurrence and the document that it is in, with the position of that among all. -/
structure Located where
  order : Nat
  path : String
  artifactKind : String
  occurrence : Occurrence
  deriving DecidableEq, Repr, Inhabited

namespace Located

def id (located : Located) : String :=
  located.occurrence.id

def line (located : Located) : Nat :=
  located.occurrence.line

def isDefinition (located : Located) : Bool :=
  located.occurrence.isDefinition

def issue (located : Located) (severity : Severity) (code : IssueCode) (message : String)
    (context : List (String × Json)) : Issue :=
  .ofEntries severity code located.path (some located.line) message
    (("id", .string located.id) :: context)

end Located

def targetContext (target : Located) : List (String × Json) :=
  [("target_path", .string target.path), ("target_line", .nat target.line)]

def locate (documents : List DocumentScan) : List Located :=
  documents.zipIdx.flatMap fun (document, order) =>
    document.occurrences.map fun occurrence =>
      ⟨order, document.path, document.artifactKind, occurrence⟩

/-- The occurrences by their roles, and the kinds of the documents. -/
structure Index where
  definitions : List Located
  references : List Located
  kinds : List String
  deriving Inhabited

namespace Index

def ofDocuments (documents : List DocumentScan) : Index :=
  let all := locate documents
  { definitions := all.filter (·.isDefinition)
    references := all.filter fun located => !located.isDefinition
    kinds := documents.map (·.artifactKind) }

def definitionsOf (index : Index) (id : String) : List Located :=
  index.definitions.filter fun definition => definition.id == id

/-- The definitions of the identifier that are tasks. -/
def tasksOf (index : Index) (id : String) : List Located :=
  (index.definitionsOf id).filter (·.occurrence.hasTask)

/-- Whether the first of two definitions comes before the second or at the same place. -/
def placeLe (first second : Located) : Bool :=
  first.order < second.order || (first.order == second.order && first.line ≤ second.line)

/-- The first definition of each identifier, in the order of documents and lines, and of identifiers
where these agree. -/
def primaryDefinitions (index : Index) : List Located :=
  let ids := KeySet.ofList (index.definitions.map Located.id)
  (ids.members.filterMap fun id => (index.definitionsOf id).head?).mergeSort placeLe

/-- The references to the identifier from documents of a kind. -/
def referencesFrom (index : Index) (id artifactKind : String) : List Located :=
  index.references.filter fun reference =>
    reference.id == id && reference.artifactKind == artifactKind

end Index

/-- The rule for the identifier that is defined. -/
def ruleOf? (context : Context) (definition : Located) : Option IdRule :=
  context.schema.findIdRule? definition.artifactKind definition.occurrence.kind

/-- The rule for references to the identifier from documents of a kind. -/
def referenceRuleOf? (context : Context) (definition : Located) (artifactKind : String) :
    Option ReferenceRule :=
  (ruleOf? context definition).bind fun rule => rule.references.find? artifactKind

/-- A reference to an identifier that is nowhere defined, unless its system is elsewhere. -/
def undefinedIssue? (context : Context) (index : Index) (reference : Located) : Option Issue :=
  if (index.definitionsOf reference.id).isEmpty &&
      !context.isExternal reference.occurrence.parsed.system then
    some (reference.issue .error .refNoDefinition
      ("`" ++ reference.id ++ "` is referenced but never defined") [])
  else none

/-- A reference that is done although a definition of its identifier is not. -/
def earlyIssue? (index : Index) (reference : Located) : Option Issue :=
  if reference.occurrence.checked then
    ((index.tasksOf reference.id).find? fun task => !task.occurrence.checked).map fun task =>
      reference.issue .error .refDoneDefNotDone
        ("`" ++ reference.id ++ "` is checked here but its definition is not done")
        (targetContext task)
  else none

/-- A reference that is not done although all definitions of its identifier are. -/
def lateIssue? (index : Index) (reference : Located) : Option Issue :=
  let tasks := index.tasksOf reference.id
  if reference.occurrence.hasTask && !reference.occurrence.checked &&
      tasks.all (·.occurrence.checked) then
    tasks.head?.map fun task =>
      reference.issue .error .defDoneRefNotDone
        ("`" ++ reference.id ++ "` is done at its definition but unchecked here")
        (targetContext task)
  else none

/-- A reference that is a task although no definition of its identifier is one, unless a rule lets
it be. -/
def looseTaskIssue? (context : Context) (index : Index) (reference : Located) : Option Issue :=
  let definitions := index.definitionsOf reference.id
  if reference.occurrence.hasTask && !(definitions.any (·.occurrence.hasTask)) then
    definitions.head?.bind fun definition =>
      match (referenceRuleOf? context definition reference.artifactKind).bind (·.task) with
      | some .allowed => none
      | some .required => none
      | _ => some (reference.issue .warning .refTaskDefNoTask
          ("`" ++ reference.id ++
            "` has a task checkbox but its definition is not task-tracked")
          (targetContext definition))
  else none

/-- Whether an identifier is done, or no task at all, so that it can be referred to. -/
def isCoverable (definition : Located) : Bool :=
  definition.occurrence.checked || !definition.occurrence.hasTask

/-- No document of the kind that must refer to the identifier is there. -/
def noTargetIssue (definition : Located) (artifactKind : String) : Issue :=
  definition.issue .warning .refTargetNotInScope
    ("`" ++ definition.id ++ "` needs a reference from " ++ artifactKind ++ ", but no " ++
      artifactKind ++ " document is in scope")
    [("target_kind", .string artifactKind)]

/-- No document of the kind refers to the identifier. -/
def uncoveredIssue (definition : Located) (artifactKind : String) : Issue :=
  definition.issue .error .refMissingFromKind
    ("`" ++ definition.id ++ "` must be referenced from " ++ artifactKind)
    [("target_kind", .string artifactKind)]

/-- No reference stands under a heading that the rule names. -/
def misplacedIssue (definition : Located) (artifactKind : String) (rule : ReferenceRule)
    (first : Located) (references : List Located) : Issue :=
  definition.issue .error .refWrongHeadings
    ("`" ++ definition.id ++ "` is referenced from " ++ artifactKind ++ " but not under: " ++
      ", ".intercalate rule.headings.members)
    [("target_kind", .string artifactKind), ("allowed", .strings rule.headings.members),
      ("found", .strings (KeySet.ofList
        (references.flatMap fun reference => reference.occurrence.active)).members),
      ("reference_path", .string first.path), ("reference_line", .nat first.line)]

def coverageIssue? (index : Index) (definition : Located) (artifactKind : String)
    (rule : ReferenceRule) : Option Issue :=
  if !index.kinds.contains artifactKind then some (noTargetIssue definition artifactKind)
  else
    match index.referencesFrom definition.id artifactKind with
    | [] => some (uncoveredIssue definition artifactKind)
    | first :: more =>
      if rule.headings.isEmpty ||
          (first :: more).any fun reference => reference.occurrence.isUnder rule.headings then none
      else some (misplacedIssue definition artifactKind rule first (first :: more))

/-- The identifier is referred to from a kind of document that must not do so. -/
def prohibitedIssue (definition reference : Located) (artifactKind : String) : Issue :=
  reference.issue .error .refFromProhibitedKind
    ("`" ++ definition.id ++ "` must not be referenced from " ++ artifactKind)
    (targetContext definition)

/-- The issues with the coverage of a definition by documents of a kind. -/
def ruleCoverageIssues (index : Index) (definition : Located) (artifactKind : String)
    (rule : ReferenceRule) : List Issue :=
  match rule.coverage with
  | .required =>
    if isCoverable definition then (coverageIssue? index definition artifactKind rule).toList
    else []
  | .prohibited =>
    (index.referencesFrom definition.id artifactKind).map fun reference =>
      prohibitedIssue definition reference artifactKind
  | .optional => []

def coverageIssues (context : Context) (index : Index) (definition : Located) : List Issue :=
  match ruleOf? context definition with
  | none => []
  | some rule => rule.references.entries.flatMap fun (artifactKind, reference) =>
      ruleCoverageIssues index definition artifactKind reference

/-- A reference breaks a policy of the rule for it. -/
def referencePolicyIssue (reference : Located) (code : IssueCode) (words : String) : Issue :=
  reference.issue .error code
    ("reference to `" ++ reference.id ++ "` from " ++ reference.artifactKind ++ " " ++ words)
    [("artifact_kind", .string reference.artifactKind)]

def referenceTaskIssue (reference : Located) : Policy → Issue
  | .required => referencePolicyIssue reference .refTaskRequired "needs a task checkbox"
  | _ => referencePolicyIssue reference .refTaskProhibited "must not carry a task checkbox"

def referencePriorityIssue (reference : Located) : Policy → Issue
  | .required => referencePolicyIssue reference .refPriorityRequired "needs a priority marker"
  | _ => referencePolicyIssue reference .refPriorityProhibited "must not carry a priority marker"

def referencePolicyIssues (context : Context) (index : Index) (reference : Located) :
    List Issue :=
  match (index.definitionsOf reference.id).head?.bind fun definition =>
      referenceRuleOf? context definition reference.artifactKind with
  | none => []
  | some rule =>
    ((rule.task.bind (·.violation reference.occurrence.hasTask)).map
        (referenceTaskIssue reference)).toList ++
      ((rule.priority.bind (·.violation reference.occurrence.hasPriority)).map
        (referencePriorityIssue reference)).toList

/-- The identifier is defined in another document too. -/
def elsewhereIssue (definition other : Located) : Issue :=
  other.issue .warning .defDuplicateAcrossDocuments
    ("`" ++ definition.id ++ "` is also defined in " ++ definition.path)
    (targetContext definition)

/-- The first definitions in documents whose paths have not been seen. -/
def firstInDocuments (seen : List String) : List Located → List Located
  | [] => []
  | definition :: rest =>
    if seen.contains definition.path then firstInDocuments seen rest
    else definition :: firstInDocuments (definition.path :: seen) rest

def elsewhereIssues (index : Index) (definition : Located) : List Issue :=
  (firstInDocuments [definition.path] ((index.definitionsOf definition.id).drop 1)).map
    (elsewhereIssue definition)

/-- An identifier is done that the code should refer to but does not. -/
def codeIssue? (context : Context) (references : KeySet) (definition : Located) : Option Issue :=
  if (ruleOf? context definition).any (·.toCode) && definition.occurrence.checked &&
      !references.contains definition.id then
    some (definition.issue .error .codeRefMissing
      ("`" ++ definition.id ++ "` is done but no code references it") [])
  else none

def codeIssues (context : Context) (definitions : List Located) : List Issue :=
  match context.codeReferences with
  | none => []
  | some references => definitions.filterMap (codeIssue? context references)

/-- The issues across the documents. -/
def checkAcross (context : Context) (documents : List DocumentScan) : List Issue :=
  let index := Index.ofDocuments documents
  let definitions := index.primaryDefinitions
  index.references.filterMap (undefinedIssue? context index) ++
    index.references.filterMap (earlyIssue? index) ++
    index.references.filterMap (lateIssue? index) ++
    index.references.filterMap (looseTaskIssue? context index) ++
    definitions.flatMap (coverageIssues context index) ++
    index.references.flatMap (referencePolicyIssues context index) ++
    definitions.flatMap (elsewhereIssues index) ++
    codeIssues context definitions

end DocContract.Validation
