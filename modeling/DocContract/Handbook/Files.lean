import DocContract.Handbook.Checklist
import DocContract.Handbook.Skeleton

namespace DocContract.Handbook

structure File where
  name : String
  text : String
  deriving DecidableEq, Repr, Inhabited

/-- The files of a blueprint.  One of the code base has rules and a checklist alone. -/
def files (blueprint : Blueprint) : List File :=
  [⟨"rules.md", renderRules blueprint⟩, ⟨"checklist.md", renderChecklist blueprint⟩] ++
  if blueprint.codebase then []
  else [⟨"template.md", renderTemplate blueprint⟩, ⟨"example.md", renderExample blueprint⟩]

/-- A blueprint with problems generates nothing. -/
def files? (blueprint : Blueprint) : Option (List File) :=
  if blueprint.hasErrors then none else some (files blueprint)

def refusalMessage (blueprint : Blueprint) : String :=
  "blueprint " ++ blueprint.path ++ " has " ++ Text.natText blueprint.problems.length ++
    " parse error(s); generation skipped"

end DocContract.Handbook
