import DocContract.Json.Printer
import DocContract.Json.Record
import DocContract.Schema.Model

/-!
Schemas as JSON.  Members stand in a fixed order, and empty sets, empty maps and absent values are
left out.
-/

namespace DocContract

open DocContract.Sorted

/-- A member that is left out where there is no value. -/
def optionalMember (key : String) (encode : α → Json) (value : Option α) : List (String × Json) :=
  (value.map fun value => (key, encode value)).toList

/-- A member that is left out where the set is empty. -/
def setMember (key : String) (set : KeySet) : List (String × Json) :=
  if set.isEmpty then [] else [(key, Json.strings set.members)]

/-- A map as an object. -/
def mapJson (encode : α → Json) (map : KeyMap α) : Json :=
  .object (map.entries.map fun (key, value) => (key, encode value))

def Policy.toJson (policy : Policy) : Json := .string policy.name

def Policy.ofJson? (value : Json) : Option Policy :=
  (Policy.ofSetting (Setting.ofJson value)).toOption

def Coverage.toJson (coverage : Coverage) : Json := .string coverage.name

def Coverage.ofJson? (value : Json) : Option Coverage :=
  (Coverage.ofSetting (Setting.ofJson value)).toOption

/-- A set read from an array of texts, in any order and with any repetition. -/
def setOfJson? (value : Json) : Option KeySet :=
  (Json.list? Json.text? value).map KeySet.ofList

/-- A map read from an object; of two members with one key the later counts. -/
def mapOfJson? (read : Json → Option α) (value : Json) : Option (KeyMap α) :=
  (Json.entries? read value).map KeyMap.ofList

namespace HeadingRule

def toJson (rule : HeadingRule) : Json :=
  .object <|
    [("id", .string rule.id), ("level", .nat rule.level.toNat)] ++
    optionalMember "pattern" .string rule.pattern ++
    optionalMember "description" .string rule.description ++
    [("required", .bool rule.required), ("multiple", rule.multiple.toJson),
      ("numbered", rule.numbered.toJson)] ++
    optionalMember "prev" .string rule.prev ++
    optionalMember "next" .string rule.next

def ofJson? (value : Json) : Option HeadingRule := do
  let [id, level, pattern, description, required, multiple, numbered, prev, next] ←
    Json.fields? ["id", "level", "pattern", "description", "required", "multiple", "numbered",
      "prev", "next"] value | none
  some
    { id := ← id.bind Json.text?
      level := ← level.bind Json.byte?
      pattern := ← Json.optional? Json.text? pattern
      description := ← Json.optional? Json.text? description
      required := ← required.bind Json.bool?
      multiple := ← multiple.bind Policy.ofJson?
      numbered := ← numbered.bind Policy.ofJson?
      prev := ← Json.optional? Json.text? prev
      next := ← Json.optional? Json.text? next }

end HeadingRule

namespace ReferenceRule

def toJson (rule : ReferenceRule) : Json :=
  .object <|
    [("coverage", rule.coverage.toJson)] ++
    optionalMember "task" Policy.toJson rule.task ++
    optionalMember "priority" Policy.toJson rule.priority ++
    setMember "headings" rule.headings

def ofJson? (value : Json) : Option ReferenceRule := do
  let [coverage, task, priority, headings] ←
    Json.fields? ["coverage", "task", "priority", "headings"] value | none
  some
    { coverage := ← coverage.bind Coverage.ofJson?
      task := ← Json.optional? Policy.ofJson? task
      priority := ← Json.optional? Policy.ofJson? priority
      headings := ← Json.default? setOfJson? ∅ headings }

end ReferenceRule

namespace IdRule

def toJson (rule : IdRule) : Json :=
  .object <|
    [("kind", .string rule.kind), ("required", .bool rule.required)] ++
    optionalMember "name" .string rule.name ++
    optionalMember "description" .string rule.description ++
    optionalMember "template" .string rule.template ++
    [("task", rule.task.toJson), ("priority", rule.priority.toJson),
      ("to_code", .bool rule.toCode)] ++
    setMember "headings" rule.headings ++
    setMember "nested" rule.nested ++
    (if rule.references.isEmpty then []
      else [("references", mapJson ReferenceRule.toJson rule.references)])

def ofJson? (value : Json) : Option IdRule := do
  let [kind, required, name, description, template, task, priority, toCode, headings, nested,
      references] ←
    Json.fields? ["kind", "required", "name", "description", "template", "task", "priority",
      "to_code", "headings", "nested", "references"] value | none
  some
    { kind := ← kind.bind Json.text?
      required := ← required.bind Json.bool?
      name := ← Json.optional? Json.text? name
      description := ← Json.optional? Json.text? description
      template := ← Json.optional? Json.text? template
      task := ← task.bind Policy.ofJson?
      priority := ← priority.bind Policy.ofJson?
      toCode := ← toCode.bind Json.bool?
      headings := ← Json.default? setOfJson? ∅ headings
      nested := ← Json.default? setOfJson? ∅ nested
      references := ← Json.default? (mapOfJson? ReferenceRule.ofJson?) ∅ references }

end IdRule

namespace Contract

def toJson (contract : Contract) : Json :=
  .object <|
    [("name", .string contract.name)] ++
    optionalMember "description" .string contract.description ++
    [("headings", .array (contract.headings.map HeadingRule.toJson)),
      ("defined_id", mapJson IdRule.toJson contract.definedIds)]

def ofJson? (value : Json) : Option Contract := do
  let [name, description, headings, definedIds] ←
    Json.fields? ["name", "description", "headings", "defined_id"] value | none
  some
    { name := ← name.bind Json.text?
      description := ← Json.optional? Json.text? description
      headings := ← headings.bind (Json.list? HeadingRule.ofJson?)
      definedIds := ← definedIds.bind (mapOfJson? IdRule.ofJson?) }

end Contract

def contractsJson (artifacts : KeyMap Contract) : Json :=
  mapJson Contract.toJson artifacts

def contractsOfJson? (value : Json) : Option (KeyMap Contract) :=
  mapOfJson? Contract.ofJson? value

namespace Schema

def toJson (schema : Schema) : Json :=
  .object
    [("schema", .nat schema.version.toNat), ("kind", .string schema.kind),
      ("digest", .string schema.digest), ("artifacts", contractsJson schema.artifacts)]

def ofJson? (value : Json) : Option Schema := do
  let [version, kind, digest, artifacts] ←
    Json.fields? ["schema", "kind", "digest", "artifacts"] value | none
  some
    { version := ← version.bind Json.word?
      kind := ← kind.bind Json.text?
      digest := ← digest.bind Json.text?
      artifacts := ← artifacts.bind contractsOfJson? }

def render (schema : Schema) : String :=
  schema.toJson.indented ++ "\n"

end Schema

end DocContract
