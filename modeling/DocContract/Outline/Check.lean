import DocContract.Outline.Placement
import DocContract.Outline.Scopes
import DocContract.Outline.Sequence

namespace DocContract.Outline

open DocContract.Text

/-- What checking the headings of a document says. -/
structure OutlineReport where
  issues : List Issue
  scopes : Scopes
  deriving Inhabited

def OutlineReport.hasErrors (report : OutlineReport) : Bool :=
  report.issues.any (·.isError)

def missingIssue (path : String) (rule : HeadingRule) (line : Option Nat) : Issue :=
  let label := match rule.pattern with
    | some pattern => "`" ++ rule.id ++ "` (" ++ pattern ++ ")"
    | none => "`" ++ rule.id ++ "`"
  .ofEntries .error .headingMissing path line
    ("required level-" ++ natText rule.level.toNat ++ " heading " ++ label ++ " is missing")
    [("heading_id", .string rule.id), ("level", .nat rule.level.toNat),
      ("pattern", .ofOption .string rule.pattern), ("prev", .ofOption .string rule.prev),
      ("next", .ofOption .string rule.next)]

def repeatedIssue (path : String) (rule : HeadingRule) (line : Option Nat) (count : Nat) : Issue :=
  .ofEntries .error .headingProhibitsMultiple path line
    ("heading `" ++ rule.id ++ "` appears " ++ natText count ++ " times but must appear once")
    [("heading_id", .string rule.id), ("count", .nat count)]

def singleIssue (path : String) (rule : HeadingRule) (line : Option Nat) (count : Nat) : Issue :=
  .ofEntries .error .headingRequiresMultiple path line
    ("heading `" ++ rule.id ++ "` must appear more than once")
    [("heading_id", .string rule.id), ("count", .nat count)]

/-- A heading is not numbered although the rule wants it to be, or is although it must not be. -/
def numberingIssue (path : String) (rule : HeadingRule) (heading : Heading) (broken : Policy) :
    Issue :=
  let issue := fun code words =>
    Issue.ofEntries .error code path (some heading.line)
      ("heading \"" ++ heading.title ++ "\" " ++ words)
      [("heading_id", .string rule.id), ("title", .string heading.title)]
  match broken with
  | .required => issue .headingNumberingRequired "must be numbered"
  | _ => issue .headingNumberingProhibited "must not be numbered"

/-- The issue with the number of headings that a rule has, by the positions of these. -/
def countIssue? (path : String) (rule : HeadingRule) (headings : List Heading) (first : Nat)
    (more : List Nat) : Option Issue :=
  let lineOf := fun (index : Nat) => headings[index]?.map (·.line)
  match rule.multiple, more with
  | .prohibited, second :: _ =>
    some (repeatedIssue path rule (lineOf second) (more.length + 1))
  | .required, [] => some (singleIssue path rule (lineOf first) 1)
  | _, _ => none

def ruleIssues (path : String) (headings : List Heading) (rule : HeadingRule) :
    Placement → List Issue
  | .skipped => []
  | .missing parent =>
    if rule.required then
      [missingIssue path rule (parent.bind fun index => headings[index]?.map (·.line))]
    else []
  | .found first more =>
    (countIssue? path rule headings first more).toList ++
      ((first :: more).filterMap fun index => headings[index]?).filterMap fun heading =>
        (rule.numbered.violation heading.numbered).map (numberingIssue path rule heading)

/-- What the slots of the contract's headings find in the outline. -/
def placements (contract : Contract) (headings : List Heading) : List Placement :=
  place (contract.headings.map Slot.ofRule) headings

/-- The headings with the ids of the rules in whose slots they stand. -/
def withRules (contract : Contract) (headings : List Heading) (placements : List Placement) :
    List (Heading × Option String) :=
  headings.zipIdx.map fun (heading, index) =>
    (heading, (slotOf? placements index).bind fun slot => contract.headings[slot]?.map (·.id))

/-- The issues with the headings of the document and its sections. -/
def check (path : String) (contract : Contract) (headings : List Heading) : OutlineReport :=
  let placements := placements contract headings
  { issues := (contract.headings.zip placements).flatMap (fun (rule, placement) =>
      ruleIssues path headings rule placement) ++ sequenceIssues path headings
    scopes := Scopes.build (withRules contract headings placements) }

end DocContract.Outline
