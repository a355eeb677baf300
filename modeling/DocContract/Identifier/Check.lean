import DocContract.Identifier.Completion
import DocContract.Schema.Model

namespace DocContract.Identifier

open DocContract.Outline DocContract.Sorted DocContract.Text

def duplicateIssue (path : String) (definition : Occurrence) (firstLine : Nat) : Issue :=
  .ofEntries .error .idDuplicateDefinition path (some definition.line)
    ("`" ++ definition.id ++ "` is already defined at line " ++ natText firstLine)
    [("id", .string definition.id), ("first_line", .nat firstLine)]

/-- The contract has no rule for identifiers of the kind. -/
def kindIssue (path : String) (contract : Contract) (definition : Occurrence) : Issue :=
  .ofEntries .error .idKindNotAllowed path (some definition.line)
    ("`" ++ definition.id ++ "` has kind `" ++ definition.kind ++ "`, which " ++ contract.name ++
      " does not define")
    [("id", .string definition.id), ("kind", .string definition.kind),
      ("allowed", .strings contract.definedIds.keys)]

/-- A definition breaks a policy of its rule. -/
def policyIssue (path : String) (definition : Occurrence) (code : IssueCode) (words : String) :
    Issue :=
  .ofEntries .error code path (some definition.line) ("`" ++ definition.id ++ "` " ++ words)
    [("id", .string definition.id), ("kind", .string definition.kind)]

def taskIssue (path : String) (definition : Occurrence) : Policy → Issue
  | .required => policyIssue path definition .idTaskRequired "needs a task checkbox"
  | _ => policyIssue path definition .idTaskProhibited "must not carry a task checkbox"

def priorityIssue (path : String) (definition : Occurrence) : Policy → Issue
  | .required => policyIssue path definition .idPriorityRequired "needs a priority marker"
  | _ => policyIssue path definition .idPriorityProhibited "must not carry a priority marker"

/-- A definition stands under none of the headings that its rule names. -/
def placeIssue (path : String) (rule : IdRule) (definition : Occurrence) : Issue :=
  .ofEntries .error .idWrongHeading path (some definition.line)
    ("`" ++ definition.id ++ "` must be defined under one of: " ++
      ", ".intercalate rule.headings.members)
    [("id", .string definition.id), ("allowed", .strings rule.headings.members),
      ("found", .strings definition.active)]

/-- Whether one of the headings around the occurrence is in the set. -/
def Occurrence.isUnder (occurrence : Occurrence) (headings : KeySet) : Bool :=
  occurrence.active.any headings.contains

def ruleIssues (path : String) (rule : IdRule) (definition : Occurrence) : List Issue :=
  ((rule.task.violation definition.hasTask).map (taskIssue path definition)).toList ++
    ((rule.priority.violation definition.hasPriority).map (priorityIssue path definition)).toList ++
    if rule.headings.isEmpty || definition.isUnder rule.headings then []
    else [placeIssue path rule definition]

def contractIssues (path : String) (contract : Contract) (definition : Occurrence) : List Issue :=
  match contract.definedIds.find? definition.kind with
  | none => [kindIssue path contract definition]
  | some rule => ruleIssues path rule definition

/-- The issues of each definition.  `seen` are the definitions in front, the first ones first. -/
def definitionIssues (path : String) (contract : Contract) (seen : List Occurrence) :
    List Occurrence → List Issue
  | [] => []
  | definition :: rest =>
    ((seen.find? fun earlier => earlier.id == definition.id).map fun earlier =>
        duplicateIssue path definition earlier.line).toList ++
      contractIssues path contract definition ++
      definitionIssues path contract (seen ++ [definition]) rest

/-- No identifier of a kind is defined although the contract requires one. -/
def requiredKindIssue (path : String) (contract : Contract) (rule : IdRule) : Issue :=
  .ofEntries .error .requiredIdKindMissing path none
    (contract.name ++ " must define at least one `" ++ rule.kind ++ "` identifier")
    [("kind", .string rule.kind)]

def requiredKindIssues (path : String) (contract : Contract) (definitions : List Occurrence) :
    List Issue :=
  (contract.definedIds.values.filter fun rule =>
    rule.required && !(definitions.any fun definition => definition.kind == rule.kind)).map
      (requiredKindIssue path contract)

/-- The issues with the identifiers that the document defines. -/
def check (path : String) (contract : Contract) (occurrences : List Occurrence)
    (scopes : Scopes) : List Issue :=
  let definitions := occurrences.filter (·.isDefinition)
  definitionIssues path contract [] definitions ++ completionIssues path scopes definitions ++
    requiredKindIssues path contract definitions

end DocContract.Identifier
