import DocContract.Policy
import DocContract.Sorted.KeyMap

namespace DocContract.Blueprint

open DocContract.Sorted DocContract.Text

inductive MarkerKind where
  | blueprint
  | heading
  | id
  | rules
  | rule
  | checklist
  | check
  | prompt
  | sample
  deriving DecidableEq, Repr, Inhabited

namespace MarkerKind

/-- The word that opens a marker of the kind. -/
def tag : MarkerKind → String
  | blueprint => "blueprint"
  | heading => "heading"
  | id => "id"
  | rules => "rules"
  | rule => "rule"
  | checklist => "checklist"
  | check => "check"
  | prompt => "prompt"
  | sample => "example"

def all : List MarkerKind :=
  [blueprint, heading, id, rules, rule, checklist, check, prompt, sample]

def ofTag? (tag : String) : Option MarkerKind :=
  all.find? fun kind => kind.tag = tag

end MarkerKind

/-- What the blueprint as a whole declares. -/
structure Header where
  artifact : Option String := none
  kit : Option String := none
  version : Option String := none
  toc : Bool := false
  name : Option String := none
  description : Option String := none
  deriving DecidableEq, Repr, Inhabited

/-- A heading of the documents that the blueprint describes.  `template` is its title in the
generated skeleton, and `examples` are titles for the generated example. -/
structure HeadingDeclaration where
  id : Option String := none
  declaredLevel : Option UInt8 := none
  pattern : Option String := none
  description : Option String := none
  required : Option Bool := none
  multiple : Option Policy := none
  numbered : Option Policy := none
  prev : Option String := none
  next : Option String := none
  template : Option String := none
  examples : List String := []
  deriving DecidableEq, Repr, Inhabited

/-- How identifiers are referred to from documents of another kind. -/
structure ReferenceDeclaration where
  coverage : Option Coverage := none
  task : Option Policy := none
  priority : Option Policy := none
  headings : List String := []
  deriving DecidableEq, Repr, Inhabited

/-- A kind of identifier that the documents define. -/
structure IdDeclaration where
  kind : Option String := none
  name : Option String := none
  description : Option String := none
  required : Bool := false
  task : Option Policy := none
  priority : Option Policy := none
  toCode : Bool := false
  template : Option String := none
  headings : List String := []
  nested : List String := []
  references : KeyMap ReferenceDeclaration := ∅
  deriving DecidableEq, Repr, Inhabited

/-- A section that rules or checks are gathered in. -/
structure Section where
  key : String
  declaredTitle : Option String
  deriving DecidableEq, Repr, Inhabited

/-- The title of a section; its key where none is declared. -/
def Section.title (group : Section) : String :=
  group.declaredTitle.getD group.key

/-- A rule; its kind names the section that it belongs to. -/
structure RuleDeclaration where
  kind : Option String := none
  subject : Option String := none
  deriving DecidableEq, Repr, Inhabited

/-- A check; its domain names the section that it belongs to. -/
structure CheckDeclaration where
  id : Option String := none
  title : Option String := none
  severity : Option String := none
  domain : Option String := none
  deriving DecidableEq, Repr, Inhabited

/-- What a marker declares, by its kind. -/
inductive Payload where
  | blueprint (header : Header)
  | heading (declaration : HeadingDeclaration)
  | id (declaration : IdDeclaration)
  | rules (sections : List Section)
  | rule (declaration : RuleDeclaration)
  | checklist (domains : List Section)
  | check (declaration : CheckDeclaration)
  | prompt
  | sample
  deriving DecidableEq, Repr, Inhabited

def Payload.kind : Payload → MarkerKind
  | .blueprint _ => .blueprint
  | .heading _ => .heading
  | .id _ => .id
  | .rules _ => .rules
  | .rule _ => .rule
  | .checklist _ => .checklist
  | .check _ => .check
  | .prompt => .prompt
  | .sample => .sample

namespace HeadingDeclaration

def defaultLevel : UInt8 := 2

def level (declaration : HeadingDeclaration) : UInt8 :=
  declaration.declaredLevel.getD defaultLevel

end HeadingDeclaration

end DocContract.Blueprint
