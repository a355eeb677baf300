import DocContract.Identifier.Grammar
import DocContract.Schema.Model

namespace DocContract.Validation

open DocContract.Identifier DocContract.Sorted

/-- A schema with the systems that are known: those registered for taking identifiers apart, and
those whose identifiers are defined elsewhere.  If it is known which identifiers the code refers
to, that is checked too. -/
structure Context where
  schema : Schema
  grammar : Grammar
  externalSystems : KeySet
  codeReferences : Option KeySet
  deriving Inhabited

namespace Context

/-- The context of a schema; its kinds of identifiers and their nesting make the grammar. -/
def ofSchema (schema : Schema) (systems externalSystems : List String)
    (codeReferences : Option (List String)) : Context where
  schema
  grammar := Grammar.ofSystems systems schema.idKinds schema.nestedKinds
  externalSystems := KeySet.ofList externalSystems
  codeReferences := codeReferences.map KeySet.ofList

def isExternal (context : Context) (system : String) : Bool :=
  context.externalSystems.contains system

end Context

end DocContract.Validation
