import DocContract.Blueprint.Document
import DocContract.Schema.Digest
import DocContract.Schema.Hierarchy
import DocContract.Text.Slug
import DocContract.TitlePattern

/-!
Compiling blueprints into a schema.  Blueprints count in the order of their paths and markers in the
order of their lines, so the order in which the blueprints are given does not matter.
-/

namespace DocContract

open DocContract.Blueprint DocContract.Sorted DocContract.Text

namespace HeadingRule

/-- The text without blanks around it, if anything is left. -/
def trimmed? (text : Option String) : Option String :=
  (text.map trim).filter (· ≠ "")

/-- The id of a declared heading: the one declared, or else the slug of its pattern. -/
def idOf? (declaration : HeadingDeclaration) : Option String :=
  (trimmed? declaration.id).or
    (((trimmed? declaration.pattern).map slugify).filter (· ≠ ""))

/-- The rule for a declared heading; one without an id and a pattern to make it from has none. -/
def ofDeclaration? (declaration : HeadingDeclaration) : Option HeadingRule :=
  (idOf? declaration).map fun id =>
    { id
      level := declaration.level
      pattern := trimmed? declaration.pattern
      description := declaration.description
      required := declaration.required.getD true
      multiple := declaration.multiple.getD .allowed
      numbered := declaration.numbered.getD .allowed
      prev := declaration.prev
      next := declaration.next }

end HeadingRule

def ReferenceRule.ofDeclaration (declaration : ReferenceDeclaration) : ReferenceRule where
  coverage := declaration.coverage.getD .optional
  task := declaration.task
  priority := declaration.priority
  headings := KeySet.ofList declaration.headings

/-- The rule for a declared identifier; one without a kind has none. -/
def IdRule.ofDeclaration? (declaration : IdDeclaration) : Option IdRule :=
  (HeadingRule.trimmed? declaration.kind).map fun kind =>
    { kind
      required := declaration.required
      name := declaration.name
      description := declaration.description
      template := declaration.template
      task := declaration.task.getD .allowed
      priority := declaration.priority.getD .allowed
      toCode := declaration.toCode
      headings := KeySet.ofList declaration.headings
      nested := KeySet.ofList declaration.nested
      references := declaration.references.mapValues fun _ reference =>
        ReferenceRule.ofDeclaration reference }

/-- Why blueprints make no schema. -/
inductive CompileFault where
  | duplicateHeading (artifact id path : String) (line : Nat)
  | invalidLevel (artifact id : String) (level : UInt8)
  | invalidPattern (artifact id pattern : String)
  | unknownHeading (artifact id field target : String)
  deriving DecidableEq, Repr

namespace CompileFault

/-- The message of the fault.  What is wrong with an invalid pattern is not told. -/
def message : CompileFault → String
  | .duplicateHeading artifact id path line =>
    artifact ++ ": duplicate heading id `" ++ id ++ "` (" ++ path ++ ":" ++ natText line ++ ")"
  | .invalidLevel artifact id level =>
    artifact ++ ": heading `" ++ id ++ "` has invalid level " ++ natText level.toNat ++
      " (expected 1..=6)"
  | .invalidPattern artifact id pattern =>
    artifact ++ ": heading `" ++ id ++ "` has invalid pattern `" ++ pattern ++ "`"
  | .unknownHeading artifact id field target =>
    artifact ++ ": heading `" ++ id ++ "` " ++ field ++ " points at unknown heading `" ++ target ++
      "`"

end CompileFault

namespace Compile

/-- The blueprints of artifacts in the order of their paths. -/
def ordered (blueprints : List Blueprint) : List Blueprint :=
  (blueprints.filter fun blueprint => !blueprint.codebase).mergeSort fun first second =>
    Pathname.le first.path second.path

/-- The rule for a heading and where it is declared. -/
structure HeadingEntry where
  artifact : String
  path : String
  line : Nat
  rule : HeadingRule
  deriving DecidableEq, Repr

/-- What makes entries clash: the kind of artifact and the id of the heading. -/
def HeadingEntry.key (entry : HeadingEntry) : String × String :=
  (entry.artifact, entry.rule.id)

def headingRule? (marker : Marker) : Option HeadingRule :=
  match marker.payload with
  | .heading declaration => HeadingRule.ofDeclaration? declaration
  | _ => none

def idRule? (marker : Marker) : Option IdRule :=
  match marker.payload with
  | .id declaration => IdRule.ofDeclaration? declaration
  | _ => none

def headingEntries (blueprints : List Blueprint) : List HeadingEntry :=
  blueprints.flatMap fun blueprint => blueprint.markers.filterMap fun marker =>
    (headingRule? marker).map fun rule =>
      ⟨blueprint.artifactKind, blueprint.path, marker.lineStart, rule⟩

/-- The first entry with the key of an earlier one. -/
def firstClash? (seen : List (String × String)) : List HeadingEntry → Option HeadingEntry
  | [] => none
  | entry :: rest =>
    if seen.contains entry.key then some entry else firstClash? (entry.key :: seen) rest

def blueprintsOf (kind : String) (blueprints : List Blueprint) : List Blueprint :=
  blueprints.filter fun blueprint => blueprint.artifactKind == kind

/-- The rules for identifiers by their kinds; of two for one kind the first counts. -/
def idRules (blueprints : List Blueprint) : KeyMap IdRule :=
  (blueprints.flatMap fun blueprint => blueprint.markers.filterMap idRule?).foldl
    (fun rules rule => rules.insertNew rule.kind rule) ∅

/-- The contract that the blueprints declare for one kind of artifact.  Its description is the first
there is. -/
def contract (kind : String) (blueprints : List Blueprint) : Contract :=
  let own := blueprintsOf kind blueprints
  { name := kind
    description := own.findSome? fun blueprint => blueprint.header.description
    headings := (headingEntries own).map HeadingEntry.rule
    definedIds := idRules own }

def contracts (blueprints : List Blueprint) : KeyMap Contract :=
  KeyMap.ofList (blueprints.map fun blueprint =>
    (blueprint.artifactKind, contract blueprint.artifactKind blueprints))

/-- The fault of a link to a heading, if no heading has the id that it names. -/
def linkFault? (contract : Contract) (rule : HeadingRule) (field : String)
    (target : Option String) : Option CompileFault :=
  target.bind fun target =>
    if contract.headings.any fun other => other.id == target then none
    else some (.unknownHeading contract.name rule.id field target)

/-- The first fault of a heading: its level, its pattern or one of its links. -/
def headingFault? (contract : Contract) (rule : HeadingRule) : Option CompileFault :=
  if rule.level < 1 ∨ 6 < rule.level then some (.invalidLevel contract.name rule.id rule.level)
  else
    (rule.pattern.bind fun pattern =>
        if (TitlePattern.compile? pattern).isSome then none
        else some (.invalidPattern contract.name rule.id pattern))
      |>.or (linkFault? contract rule "prev" rule.prev)
      |>.or (linkFault? contract rule "next" rule.next)

def contractFault? (contract : Contract) : Option CompileFault :=
  contract.headings.findSome? (headingFault? contract)

/-- The headings with links to the siblings next to them where they declare none. -/
def linkSiblings (headings : List HeadingRule) : List HeadingRule :=
  let families := Hierarchy.families (headings.map (·.level))
  let idAt := fun (index : Option Nat) => index.bind fun index => headings[index]?.map (·.id)
  headings.mapIdx fun index rule =>
    { rule with
      prev := rule.prev.or (idAt (Hierarchy.siblingBefore? families index))
      next := rule.next.or (idAt (Hierarchy.siblingAfter? families index)) }

def linked (contract : Contract) : Contract :=
  { contract with headings := linkSiblings contract.headings }

end Compile

/-- The schema that the blueprints declare, or the first reason why there is none. -/
def Schema.compile (blueprints : List Blueprint) : Except CompileFault Schema :=
  let ordered := Compile.ordered blueprints
  match Compile.firstClash? [] (Compile.headingEntries ordered) with
  | some entry => .error (.duplicateHeading entry.artifact entry.rule.id entry.path entry.line)
  | none =>
    let contracts := Compile.contracts ordered
    match contracts.values.findSome? Compile.contractFault? with
    | some fault => .error fault
    | none =>
      .ok (Schema.ofContracts (contracts.mapValues fun _ contract => Compile.linked contract))

end DocContract
