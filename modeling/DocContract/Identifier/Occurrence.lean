import DocContract.Identifier.Grammar
import DocContract.Outline.Scopes

namespace DocContract.Identifier

open DocContract.Outline

/-- An identifier where it stands in a document.  `active` are the ids of the headings around it,
the outermost first, and `scope` is the position of its section. -/
structure Occurrence where
  parsed : Parsed
  role : Role
  line : Nat
  checked : Bool
  hasTask : Bool
  priority : Option UInt32
  active : List String
  scope : Option Nat
  deriving DecidableEq, Repr, Inhabited

namespace Occurrence

def id (occurrence : Occurrence) : String :=
  occurrence.parsed.raw

def kind (occurrence : Occurrence) : String :=
  occurrence.parsed.kind

def isDefinition (occurrence : Occurrence) : Bool :=
  occurrence.role == .definition

def hasPriority (occurrence : Occurrence) : Bool :=
  occurrence.priority.isSome

end Occurrence

/-- The occurrences of the identifiers that the grammar can take apart. -/
def resolve (grammar : Grammar) (scopes : Scopes) (mentions : List Mention) : List Occurrence :=
  mentions.filterMap fun mention =>
    (grammar.parse? mention.id).map fun parsed =>
      { parsed
        role := mention.role
        line := mention.line
        checked := mention.checked
        hasTask := mention.hasTask
        priority := mention.priority
        active := scopes.activeAt mention.line
        scope := scopes.sectionAt? mention.line }

end DocContract.Identifier
