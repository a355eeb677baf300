import DocContract.Handbook.Grouping

namespace DocContract.Handbook

open DocContract.Blueprint DocContract.Text

structure CheckEntry where
  check : CheckDeclaration
  body : String
  deriving DecidableEq, Repr

/-- The sections that the blueprint declares for its checks. -/
def checkDomains (blueprint : Blueprint) : List Section :=
  blueprint.markers.flatMap fun marker =>
    match marker.payload with
    | .checklist domains => domains
    | _ => []

def checkEntries (blueprint : Blueprint) : List CheckEntry :=
  blueprint.markers.filterMap fun marker =>
    match marker.payload with
    | .check check => some ⟨check, bodyOf marker⟩
    | _ => none

/-- A line of a check's body, under the check. -/
def renderCheckLine (text : String) : String :=
  line (if text = "" then "" else "  " ++ text)

/-- A check: a box to tick, and its body. -/
def CheckEntry.render (entry : CheckEntry) : String :=
  let severity := match entry.check.severity with
    | some severity => " `" ++ severity ++ "`"
    | none => ""
  line ("- [ ] **" ++ entry.check.id.getD "CHECK" ++ "**" ++ severity ++ ": " ++
      entry.check.title.getD "") ++
    String.join ((lines (trim entry.body)).map renderCheckLine)

def renderDomain (title : String) (entries : List CheckEntry) : String :=
  line ("\n## " ++ title ++ "\n") ++ String.join (entries.map CheckEntry.render)

/-- The checks of the blueprint: each under the sections of its domain, or in general. -/
def renderChecklist (blueprint : Blueprint) : String :=
  let domains := checkDomains blueprint
  let entries := checkEntries blueprint
  let domainOf := fun (entry : CheckEntry) => entry.check.domain
  let others := otherEntries domainOf entries domains
  line ("# " ++ blueprint.title ++ " Checklist") ++
    String.join (domains.map fun domain =>
      renderDomain domain.title (entriesOf domainOf entries domain)) ++
    (if others.isEmpty then "" else renderDomain "General" others)

end DocContract.Handbook
