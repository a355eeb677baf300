import DocContract.Proofs.Files.Store
import DocContract.Proofs.Json.Record
import DocContract.Proofs.Schema.Acceptance
import DocContract.Schema.File

namespace DocContract

open DocContract.Json DocContract.Sorted

@[simp] theorem Policy.ofJson?_toJson (policy : Policy) :
    Policy.ofJson? policy.toJson = some policy := by
  cases policy <;> decide

@[simp] theorem Coverage.ofJson?_toJson (coverage : Coverage) :
    Coverage.ofJson? coverage.toJson = some coverage := by
  cases coverage <;> decide

@[simp] theorem optional?_text (text : Option String) :
    optional? text? (text.map Json.string) = some text :=
  optional?_map text text?_string nofun

@[simp] theorem optional?_policy (policy : Option Policy) :
    optional? Policy.ofJson? (policy.map Policy.toJson) = some policy :=
  optional?_map policy Policy.ofJson?_toJson nofun

theorem setMember_eq (key : String) (set : KeySet) :
    setMember key set = optionalMember key (fun set : KeySet => Json.strings set.members)
      (if set.isEmpty then none else some set) := by
  rw [setMember]
  split <;> rfl

@[simp] theorem default?_set (set : KeySet) :
    default? setOfJson? ∅ ((if set.isEmpty then none else some set).map
      fun set : KeySet => Json.strings set.members) = some set :=
  default?_unlessEmpty set setOfJson?_strings KeySet.eq_empty_of_isEmpty

theorem HeadingRule.ofJson?_toJson (rule : HeadingRule) :
    HeadingRule.ofJson? rule.toJson = some rule := by
  simp [HeadingRule.ofJson?, HeadingRule.toJson, fields?_object]

theorem ReferenceRule.ofJson?_toJson (rule : ReferenceRule) :
    ReferenceRule.ofJson? rule.toJson = some rule := by
  simp [ReferenceRule.ofJson?, ReferenceRule.toJson, fields?_object, setMember_eq]

theorem referencesMember_eq (references : KeyMap ReferenceRule) :
    (if references.isEmpty then []
      else [("references", mapJson ReferenceRule.toJson references)]) =
      optionalMember "references" (mapJson ReferenceRule.toJson)
        (if references.isEmpty then none else some references) := by
  split <;> rfl

@[simp] theorem default?_references (references : KeyMap ReferenceRule) :
    default? (mapOfJson? ReferenceRule.ofJson?) ∅
      ((if references.isEmpty then none else some references).map
        (mapJson ReferenceRule.toJson)) = some references :=
  default?_unlessEmpty references
    (fun map => mapOfJson?_mapJson map ReferenceRule.ofJson?_toJson) KeyMap.eq_empty_of_isEmpty

theorem IdRule.ofJson?_toJson (rule : IdRule) : IdRule.ofJson? rule.toJson = some rule := by
  simp [IdRule.ofJson?, IdRule.toJson, fields?_object, setMember_eq, referencesMember_eq]

theorem Contract.ofJson?_toJson (contract : Contract) :
    Contract.ofJson? contract.toJson = some contract := by
  have headings := list?_array contract.headings HeadingRule.ofJson?_toJson
  have definedIds := mapOfJson?_mapJson contract.definedIds IdRule.ofJson?_toJson
  simp [Contract.ofJson?, Contract.toJson, fields?_object, headings, definedIds]

theorem Schema.ofJson?_toJson (schema : Schema) : Schema.ofJson? schema.toJson = some schema := by
  have artifacts : contractsOfJson? (contractsJson schema.artifacts) = some schema.artifacts :=
    mapOfJson?_mapJson schema.artifacts Contract.ofJson?_toJson
  simp [Schema.ofJson?, Schema.toJson, fields?_object, artifacts]

@[simp] theorem Policy.exact_toJson (policy : Policy) : Exact policy.toJson :=
  exact_string policy.name

@[simp] theorem Coverage.exact_toJson (coverage : Coverage) : Exact coverage.toJson :=
  exact_string coverage.name

@[simp] theorem exactMembers_setMember (key : String) (set : KeySet) :
    ExactMembers (setMember key set) := by
  rw [setMember_eq]
  exact exactMembers_optionalMember key _ fun set => exact_strings set.members

theorem HeadingRule.exact_toJson (rule : HeadingRule) : Exact rule.toJson := by
  apply exact_object
  simp [exactMembers_optionalMember]

theorem ReferenceRule.exact_toJson (rule : ReferenceRule) : Exact rule.toJson := by
  apply exact_object
  simp [exactMembers_optionalMember]

theorem IdRule.exact_toJson (rule : IdRule) : Exact rule.toJson := by
  have references (map : KeyMap ReferenceRule) : Exact (mapJson ReferenceRule.toJson map) :=
    exact_mapJson map ReferenceRule.exact_toJson
  apply exact_object
  simp [exactMembers_optionalMember, referencesMember_eq, references]

theorem Contract.exact_toJson (contract : Contract) : Exact contract.toJson := by
  have headings : Exact (.array (contract.headings.map HeadingRule.toJson)) := by
    apply Exact.array
    simp [HeadingRule.exact_toJson]
  have definedIds : Exact (mapJson IdRule.toJson contract.definedIds) :=
    exact_mapJson contract.definedIds IdRule.exact_toJson
  apply exact_object
  simp [exactMembers_optionalMember, headings, definedIds]

theorem Schema.exact_toJson (schema : Schema) : Exact schema.toJson := by
  have artifacts : Exact (contractsJson schema.artifacts) :=
    exact_mapJson schema.artifacts Contract.exact_toJson
  apply exact_object
  simp [artifacts]

theorem Schema.parse?_render (schema : Schema) : Json.parse? schema.render = some schema.toJson :=
  parse?_indented schema.exact_toJson

/-- A schema of the current format with the digest of its contracts is accepted as it was written.
-/
theorem Schema.ofText_render {schema : Schema} (kind : schema.kind = Schema.currentKind)
    (digest : schema.digest = contractsDigest schema.artifacts) (path : String) :
    Schema.ofText path schema.render = .ok schema := by
  simp [Schema.ofText, Schema.parse?_render, Schema.ofJson?_toJson, kind, ← digest]

/-- Loading decides on the text of the file and changes nothing. -/
theorem Schema.run_load_eq (store : FileStore) (path : String) :
    (Schema.load path : ExceptT SchemaFileFault (StateM FileStore) Schema).run.run store =
      (((store.readText path).mapError (.unreadable path)).bind (Schema.ofText path), store) := by
  rw [Schema.load, ExceptT.run_bind, StateT.run_bind, FileStore.run_readText]
  cases store.readText path <;> rfl

theorem Schema.run_load {store : FileStore} {path text : String}
    (held : store.readText path = .ok text) :
    (Schema.load path : ExceptT SchemaFileFault (StateM FileStore) Schema).run.run store =
      (Schema.ofText path text, store) := by
  rw [Schema.run_load_eq, held]
  rfl

/-- The text of a schema is read as that schema.  A file that holds the text of a compiled schema is
accepted, and reading it changes no file. -/
theorem Schema.load_render :
    (∀ schema : Schema, (Json.parse? schema.render).bind Schema.ofJson? = some schema) ∧
      ∀ blueprints schema, Schema.compile blueprints = .ok schema →
        (∀ path, Schema.ofText path schema.render = .ok schema) ∧
          ∀ (store : FileStore) path, store.readText path = .ok schema.render →
            (Schema.load path : ExceptT SchemaFileFault (StateM FileStore) Schema).run.run store =
              (.ok schema, store) := by
  refine ⟨?_, ?_⟩
  · intro schema
    rw [Schema.parse?_render, Option.bind_some, Schema.ofJson?_toJson]
  · intro blueprints schema compiled
    obtain ⟨_, made⟩ := Compile.compile_eq_ok_iff.mp compiled
    have accepted (path : String) : Schema.ofText path schema.render = .ok schema :=
      Schema.ofText_render (made ▸ rfl) (made ▸ rfl) path
    refine ⟨accepted, ?_⟩
    intro store path held
    rw [Schema.run_load held, accepted]

/-- The schema of one blueprint, from the only file of a folder. -/
theorem Schema.load_scopeBlueprint :
    ∃ schema store, Schema.compile [scopeBlueprint "kits/PRD.md" 7] = .ok schema ∧
      FileStore.readText store "schema.json" = .ok schema.render ∧
      (Schema.load "schema.json" :
        ExceptT SchemaFileFault (StateM FileStore) Schema).run.run store = (.ok schema, store) := by
  have admissible (kind : String) :
      Compile.Admissible (Compile.declaredRules kind [scopeBlueprint "kits/PRD.md" 7]) := by
    by_cases own : kind = "PRD"
    · subst own
      have rules : Compile.declaredRules "PRD" [scopeBlueprint "kits/PRD.md" 7] =
          [⟨"scope", 2, none, none, true, .allowed, .allowed, none, none⟩] := by
        decide +kernel
      rw [rules]
      constructor <;> simp
    · have rules : Compile.declaredRules kind [scopeBlueprint "kits/PRD.md" 7] = [] := by
        simp [Compile.declaredRules, scopeBlueprint, Ne.symm own]
      rw [rules]
      constructor <;> simp
  obtain ⟨schema, compiled⟩ :
      ∃ schema, Schema.compile [scopeBlueprint "kits/PRD.md" 7] = .ok schema :=
    ⟨_, Compile.compile_eq_ok_iff.mpr ⟨admissible, rfl⟩⟩
  let store : FileStore := ⟨[(["schema.json"], .file (.text schema.render))], []⟩
  have held : store.readText "schema.json" = .ok schema.render := rfl
  exact ⟨schema, store, compiled, held,
    (Schema.load_render.2 _ schema compiled).2 store "schema.json" held⟩

end DocContract
