import DocContract.Handbook.Grouping

namespace DocContract.Handbook

open DocContract.Blueprint DocContract.Text

structure RuleEntry where
  rule : RuleDeclaration
  body : String
  deriving DecidableEq, Repr

/-- The sections that the blueprint declares for its rules. -/
def ruleSections (blueprint : Blueprint) : List Section :=
  blueprint.markers.flatMap fun marker =>
    match marker.payload with
    | .rules sections => sections
    | _ => []

def ruleEntries (blueprint : Blueprint) : List RuleEntry :=
  blueprint.markers.filterMap fun marker =>
    match marker.payload with
    | .rule rule => some ⟨rule, bodyOf marker⟩
    | _ => none

def idDeclarations (blueprint : Blueprint) : List IdDeclaration :=
  blueprint.markers.filterMap fun marker =>
    match marker.payload with
    | .id declaration => some declaration
    | _ => none

def headingDeclarations (blueprint : Blueprint) : List HeadingDeclaration :=
  blueprint.markers.filterMap fun marker =>
    match marker.payload with
    | .heading declaration => some declaration
    | _ => none

/-- A rule: its subject as a heading, and its body. -/
def RuleEntry.render (entry : RuleEntry) : String :=
  let subject := match entry.rule.subject with
    | some subject => line ("\n### " ++ subject)
    | none => ""
  let body := trim entry.body
  subject ++ if body = "" then "" else line ("\n" ++ body)

def renderRuleSection (title : String) (entries : List RuleEntry) : String :=
  line ("\n## " ++ title) ++ String.join (entries.map RuleEntry.render)

/-- The row of an identifier; one without a kind has none. -/
def renderIdRow (declaration : IdDeclaration) : String :=
  match declaration.kind with
  | none => ""
  | some kind =>
    let headings :=
      if declaration.headings.isEmpty then "any" else ", ".intercalate declaration.headings
    line ("| " ++ " | ".intercalate
      ["`" ++ kind ++ "`", declaration.name.getD "-", if declaration.required then "yes" else "no",
        (declaration.task.getD .allowed).name, (declaration.priority.getD .allowed).name,
        headings] ++ " |")

/-- The table of the identifiers, if there are any. -/
def renderIds (declarations : List IdDeclaration) : String :=
  if declarations.isEmpty then ""
  else
    line "\n## Identifiers\n" ++
      line "| Kind | Name | Required | Task | Priority | Headings |" ++
      line "|---|---|---|---|---|---|" ++
      String.join (declarations.map renderIdRow)

def hashes (level : UInt8) : String :=
  String.ofList (List.replicate level.toNat '#')

/-- The entry of a heading in the outline; one without a title has none. -/
def renderOutlineEntry (declaration : HeadingDeclaration) : String :=
  match declaration.templateTitle with
  | none => ""
  | some title =>
    line ("- `" ++ hashes declaration.level ++ " " ++ title ++ "`" ++
      if declaration.required.getD true then "" else " (optional)")

/-- The outline of the headings, if there are any. -/
def renderOutline (declarations : List HeadingDeclaration) : String :=
  if declarations.isEmpty then ""
  else line "\n## Structure\n" ++ String.join (declarations.map renderOutlineEntry)

/-- The rules of the blueprint: each under the sections of its kind, or among the others; then the
identifiers and the outline. -/
def renderRules (blueprint : Blueprint) : String :=
  let sections := ruleSections blueprint
  let entries := ruleEntries blueprint
  let kindOf := fun (entry : RuleEntry) => entry.rule.kind
  let others := otherEntries kindOf entries sections
  line ("# " ++ blueprint.title ++ " Rules") ++
    (match blueprint.header.description with
      | some description => line ("\n" ++ trim description)
      | none => "") ++
    String.join (sections.map fun group =>
      renderRuleSection group.title (entriesOf kindOf entries group)) ++
    (if others.isEmpty then "" else renderRuleSection "Other Rules" others) ++
    renderIds (idDeclarations blueprint) ++
    renderOutline (headingDeclarations blueprint)

end DocContract.Handbook
