import DocContract.Identifier.Check
import DocContract.Proofs.Identifier.Completion
import DocContract.Proofs.Validation.Consistency

namespace DocContract.Identifier

open DocContract.Outline DocContract.Sorted DocContract.Validation

/-- The rule permits the definition: whether it is a task, whether it has a priority, and the
headings that it stands under. -/
structure Permits (rule : IdRule) (definition : Occurrence) : Prop where
  task : Obeys (some rule.task) definition.hasTask
  priority : Obeys (some rule.priority) definition.hasPriority
  placed : rule.headings.members = [] ∨ ∃ heading ∈ definition.active, heading ∈ rule.headings

structure DefinitionsAccepted (contract : Contract) (scopes : Scopes)
    (definitions : List Occurrence) : Prop where
  /-- No identifier is defined twice. -/
  distinct : (definitions.map Occurrence.id).Nodup
  /-- The contract has a rule for the kind of each, which permits it. -/
  permitted : ∀ definition ∈ definitions, ∃ rule,
    contract.definedIds.find? definition.kind = some rule ∧ Permits rule definition
  /-- Every kind that is required is defined. -/
  present : ∀ rule ∈ contract.definedIds.values, rule.required = true →
    ∃ definition ∈ definitions, definition.kind = rule.kind
  /-- A task with others strictly inside its section is done exactly when all of these are. -/
  completed : ∀ outer ∈ definitions, outer.hasTask = true →
    (∃ inner ∈ definitions, inner.hasTask = true ∧ StandsInside scopes outer inner) →
    (outer.checked = true ↔ ∀ inner ∈ definitions, inner.hasTask = true →
      StandsInside scopes outer inner → inner.checked = true)

section

variable {path : String} {contract : Contract} {scopes : Scopes} {rule : IdRule}
variable {definition : Occurrence} {seen definitions : List Occurrence}

theorem ruleIssues_eq_nil_iff : ruleIssues path rule definition = [] ↔ Permits rule definition := by
  have placed : (rule.headings.isEmpty || definition.isUnder rule.headings) = true ↔
      (rule.headings.members = [] ∨ ∃ heading ∈ definition.active, heading ∈ rule.headings) := by
    simp [KeySet.isEmpty, Occurrence.isUnder, KeySet.contains_iff_mem]
  unfold ruleIssues
  rw [List.append_eq_nil_iff, List.append_eq_nil_iff, Option.toList_eq_nil_iff,
    Option.toList_eq_nil_iff, Option.map_eq_none_iff, Option.map_eq_none_iff,
    violation_eq_none_iff, violation_eq_none_iff, ite_eq_left_iff]
  constructor
  · rintro ⟨⟨task, priority⟩, stands⟩
    refine ⟨task, priority, placed.mp ?_⟩
    by_contra elsewhere
    cases stands elsewhere
  · rintro ⟨task, priority, stands⟩
    exact ⟨⟨task, priority⟩, fun elsewhere => absurd (placed.mpr stands) elsewhere⟩

theorem contractIssues_eq_nil_iff :
    contractIssues path contract definition = [] ↔
      ∃ rule, contract.definedIds.find? definition.kind = some rule ∧ Permits rule definition := by
  unfold contractIssues
  cases contract.definedIds.find? definition.kind with
  | none => simp
  | some rule => simp [ruleIssues_eq_nil_iff]

/-- Definitions cause no issue of their own if they are new and differ from each other, and their
rules permit them. -/
theorem definitionIssues_eq_nil_iff :
    definitionIssues path contract seen definitions = [] ↔
      (∀ definition ∈ definitions, definition.id ∉ seen.map Occurrence.id) ∧
        (definitions.map Occurrence.id).Nodup ∧
        ∀ definition ∈ definitions, ∃ rule,
          contract.definedIds.find? definition.kind = some rule ∧ Permits rule definition := by
  induction definitions generalizing seen with
  | nil => simp [definitionIssues]
  | cons definition rest ih =>
    have fresh : ((seen.find? fun earlier => earlier.id == definition.id).map fun earlier =>
          duplicateIssue path definition earlier.line).toList = [] ↔
        definition.id ∉ seen.map Occurrence.id := by
      simp [List.find?_eq_none]
    rw [definitionIssues, List.append_eq_nil_iff, List.append_eq_nil_iff, ih,
      contractIssues_eq_nil_iff, fresh, List.map_cons, List.nodup_cons, List.forall_mem_cons,
      List.forall_mem_cons, List.map_append, List.map_singleton]
    simp only [List.mem_append, List.mem_singleton, not_or]
    constructor
    · rintro ⟨⟨new, own⟩, apart, distinct, permitted⟩
      refine ⟨⟨new, fun other member => (apart other member).1⟩, ⟨?_, distinct⟩, own, permitted⟩
      intro again
      obtain ⟨other, member, same⟩ := List.mem_map.mp again
      exact (apart other member).2 same
    · rintro ⟨⟨new, later⟩, ⟨single, distinct⟩, own, permitted⟩
      refine ⟨⟨new, own⟩, fun other member => ⟨later other member, ?_⟩, distinct, permitted⟩
      intro same
      exact single (List.mem_map.mpr ⟨other, member, same⟩)

theorem requiredKindIssues_eq_nil_iff :
    requiredKindIssues path contract definitions = [] ↔
      ∀ rule ∈ contract.definedIds.values, rule.required = true →
        ∃ definition ∈ definitions, definition.kind = rule.kind := by
  simp [requiredKindIssues, List.filter_eq_nil_iff]

theorem completionIssues_eq_nil_iff_tasks :
    completionIssues path scopes definitions = [] ↔
      ∀ outer ∈ definitions, outer.hasTask = true →
        (∃ inner ∈ definitions, inner.hasTask = true ∧ StandsInside scopes outer inner) →
        (outer.checked = true ↔ ∀ inner ∈ definitions, inner.hasTask = true →
          StandsInside scopes outer inner → inner.checked = true) := by
  simp [completionIssues, completionIssue?_eq_none_iff, and_assoc]

end

/-- The identifiers of a document cause no issue exactly if its definitions are as the contract
wants them. -/
theorem check_accepts_iff (path : String) (contract : Contract) (occurrences : List Occurrence)
    (scopes : Scopes) :
    check path contract occurrences scopes = [] ↔
      DefinitionsAccepted contract scopes (occurrences.filter (·.isDefinition)) := by
  rw [check, List.append_eq_nil_iff, List.append_eq_nil_iff, definitionIssues_eq_nil_iff,
    completionIssues_eq_nil_iff_tasks, requiredKindIssues_eq_nil_iff]
  constructor
  · rintro ⟨⟨⟨_, distinct, permitted⟩, completed⟩, present⟩
    exact ⟨distinct, permitted, present, completed⟩
  · rintro ⟨distinct, permitted, present, completed⟩
    exact ⟨⟨⟨fun _ _ => List.not_mem_nil, distinct, permitted⟩, completed⟩, present⟩

end DocContract.Identifier
