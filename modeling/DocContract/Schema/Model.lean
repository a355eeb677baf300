import DocContract.Policy
import DocContract.Sorted.KeySet

namespace DocContract

open DocContract.Sorted

/-- A heading that documents of a kind have, or may have, at this place of their outline. -/
structure HeadingRule where
  id : String
  level : UInt8
  pattern : Option String
  description : Option String
  required : Bool
  multiple : Policy
  numbered : Policy
  prev : Option String
  next : Option String
  deriving DecidableEq, Repr, Inhabited

/-- How identifiers of a kind are referred to from documents of another kind. -/
structure ReferenceRule where
  coverage : Coverage
  task : Option Policy
  priority : Option Policy
  headings : KeySet
  deriving DecidableEq, Repr, Inhabited

/-- The rule for identifiers of one kind.  `nested` holds the kinds that may trail this kind inside
one identifier, and `references` has one rule per referring kind of artifact. -/
structure IdRule where
  kind : String
  required : Bool
  name : Option String
  description : Option String
  template : Option String
  task : Policy
  priority : Policy
  toCode : Bool
  headings : KeySet
  nested : KeySet
  references : KeyMap ReferenceRule
  deriving DecidableEq, Repr, Inhabited

/-- What documents of one kind of artifact must look like. -/
structure Contract where
  name : String
  description : Option String
  headings : List HeadingRule
  definedIds : KeyMap IdRule
  deriving DecidableEq, Repr, Inhabited

/-- The contracts of all kinds of artifacts, with a digest of them. -/
structure Schema where
  version : UInt32
  kind : String
  digest : String
  artifacts : KeyMap Contract
  deriving DecidableEq, Repr, Inhabited

namespace Schema

/-- The version that schemas are written in. -/
def currentVersion : UInt32 := 1

def currentKind : String := "cpt.constraints.v1"

def artifact? (schema : Schema) (kind : String) : Option Contract :=
  schema.artifacts.find? kind

/-- Every kind of identifier that some kind of artifact defines. -/
def idKinds (schema : Schema) : KeySet :=
  KeySet.ofList (schema.artifacts.values.flatMap fun contract => contract.definedIds.keys)

/-- For each kind of identifier the kinds nested in it by any rule, where there are some. -/
def nestedKinds (schema : Schema) : KeyMap KeySet :=
  (schema.artifacts.values.flatMap fun contract => contract.definedIds.values).foldl
    (fun nested rule =>
      if rule.nested.isEmpty then nested
      else nested.insert rule.kind (((nested.find? rule.kind).getD ∅).union rule.nested))
    ∅

/-- The rule for a kind of identifier: that of the given kind of artifact, or else the first. -/
def findIdRule? (schema : Schema) (artifactKind idKind : String) : Option IdRule :=
  ((schema.artifact? artifactKind).bind fun contract => contract.definedIds.find? idKind).or
    (schema.artifacts.values.findSome? fun contract => contract.definedIds.find? idKind)

end Schema

end DocContract
