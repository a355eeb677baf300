import DocContract.Proofs.Validation.Index

/-!
When the checks across documents find no error: the references and definitions of the documents fit
each other and the rules, and the code refers to what is done.
-/

namespace DocContract.Validation

open DocContract.Sorted DocContract.Identifier

/-- Something is there, or is not, as the policy wants it if there is one. -/
def Obeys (policy : Option Policy) (present : Bool) : Prop :=
  (policy = some .required → present = true) ∧ (policy = some .prohibited → present = false)

/-- Documents of the kind refer to the identifier at this place. -/
def RefersFrom (documents : List DocumentScan) (id artifactKind : String) (reference : Located) :
    Prop :=
  Refers documents reference ∧ reference.id = id ∧ reference.artifactKind = artifactKind

/-- The identifier has the references that the rule for documents of the kind asks for. -/
def Covered (documents : List DocumentScan) (id artifactKind : String) (rule : ReferenceRule) :
    Prop :=
  (∃ reference, RefersFrom documents id artifactKind reference) ∧
    (rule.headings.members ≠ [] → ∃ reference, RefersFrom documents id artifactKind reference ∧
      ∃ heading ∈ reference.occurrence.active, heading ∈ rule.headings)

/-- The references of the documents fit the definitions and the rules for these.  The rule for an
identifier is that of its first definition. -/
structure ReferencesConsistent (context : Context) (documents : List DocumentScan) : Prop where
  /-- Identifiers that are nowhere defined are those of other systems. -/
  defined : ∀ reference, Refers documents reference →
    (∀ definition, ¬ Defines documents reference.id definition) →
    reference.occurrence.parsed.system ∈ context.externalSystems
  /-- What is referred to as done is done wherever it is a task. -/
  done : ∀ reference, Refers documents reference → reference.occurrence.checked = true →
    ∀ task, Defines documents reference.id task → task.occurrence.hasTask = true →
    task.occurrence.checked = true
  /-- What is referred to as not done is not done where it is a task. -/
  pending : ∀ reference, Refers documents reference → reference.occurrence.hasTask = true →
    reference.occurrence.checked = false →
    (∃ task, Defines documents reference.id task ∧ task.occurrence.hasTask = true) →
    ∃ task, Defines documents reference.id task ∧ task.occurrence.hasTask = true ∧
      task.occurrence.checked = false
  /-- What is done or no task has the required references from kinds with a document. -/
  covered : ∀ id definition rule artifactKind reference, primary? documents id = some definition →
    context.schema.findIdRule? definition.artifactKind definition.occurrence.kind = some rule →
    rule.references.find? artifactKind = some reference → reference.coverage = .required →
    (definition.occurrence.checked = true ∨ definition.occurrence.hasTask = false) →
    (∃ document ∈ documents, document.artifactKind = artifactKind) →
    Covered documents id artifactKind reference
  /-- No document of a prohibited kind refers to an identifier. -/
  prohibited : ∀ id definition rule artifactKind reference,
    primary? documents id = some definition →
    context.schema.findIdRule? definition.artifactKind definition.occurrence.kind = some rule →
    rule.references.find? artifactKind = some reference → reference.coverage = .prohibited →
    ∀ other, ¬ RefersFrom documents id artifactKind other
  /-- References have the tasks and priorities that the rule for their kind wants. -/
  permitted : ∀ reference definition rule wanted, Refers documents reference →
    primary? documents reference.id = some definition →
    context.schema.findIdRule? definition.artifactKind definition.occurrence.kind = some rule →
    rule.references.find? reference.artifactKind = some wanted →
    Obeys wanted.task reference.occurrence.hasTask ∧
      Obeys wanted.priority reference.occurrence.hasPriority

/-- If it is known which identifiers the code refers to, these are all that are done and that it
should refer to. -/
def CodeConsistent (context : Context) (documents : List DocumentScan) : Prop :=
  ∀ known, context.codeReferences = some known →
    ∀ id definition rule, primary? documents id = some definition →
      context.schema.findIdRule? definition.artifactKind definition.occurrence.kind = some rule →
      rule.toCode = true → definition.occurrence.checked = true → id ∈ known

/-- None of the issues is an error. -/
def NoErrors (issues : List Issue) : Prop :=
  ∀ issue ∈ issues, issue.isError = false

theorem noErrors_append_iff {first second : List Issue} :
    NoErrors (first ++ second) ↔ NoErrors first ∧ NoErrors second :=
  List.forall_mem_append

theorem noErrors_flatMap_iff {items : List α} {check : α → List Issue} :
    NoErrors (items.flatMap check) ↔ ∀ item ∈ items, NoErrors (check item) := by
  simp only [NoErrors, List.forall_mem_flatMap]

theorem noErrors_filterMap_iff {items : List α} {check : α → Option Issue} :
    NoErrors (items.filterMap check) ↔ ∀ item ∈ items, NoErrors (check item).toList := by
  simp only [NoErrors, List.mem_filterMap, Option.mem_toList, forall_exists_index, and_imp]
  exact ⟨fun all item member issue found => all issue item member found,
    fun all issue item member found => all item member issue found⟩

theorem noErrors_nil : NoErrors [] := by
  intro issue member
  cases member

theorem not_noErrors_cons {issue : Issue} {rest : List Issue} (error : issue.isError = true) :
    ¬ NoErrors (issue :: rest) := by
  intro none
  have wrong := error.symm.trans (none issue List.mem_cons_self)
  cases wrong

theorem noErrors_singleton {issue : Issue} (warning : issue.isError = false) :
    NoErrors [issue] := by
  intro other member
  exact List.mem_singleton.mp member ▸ warning

/-- An error that is reported under a condition is none where this does not hold. -/
theorem noErrors_ite_iff {reported : Bool} {issue : Issue} (error : issue.isError = true) :
    NoErrors (if reported then some issue else none).toList ↔ reported = false := by
  cases reported with
  | false => exact iff_of_true noErrors_nil rfl
  | true => exact iff_of_false (not_noErrors_cons error) nofun

section

variable {context : Context} {documents : List DocumentScan} {reference definition : Located}
variable {rule : ReferenceRule} {artifactKind : String}

theorem noErrors_undefinedIssue_iff :
    NoErrors (undefinedIssue? context (Index.ofDocuments documents) reference).toList ↔
      ((∀ definition, ¬ Defines documents reference.id definition) →
        reference.occurrence.parsed.system ∈ context.externalSystems) := by
  unfold undefinedIssue?
  rw [noErrors_ite_iff rfl, ← definitionsOf_eq_nil_iff, ← KeySet.contains_iff_mem]
  cases (Index.ofDocuments documents).definitionsOf reference.id with
  | nil => simp [Context.isExternal]
  | cons first more => simp

theorem noErrors_earlyIssue_iff :
    NoErrors (earlyIssue? (Index.ofDocuments documents) reference).toList ↔
      (reference.occurrence.checked = true → ∀ task, Defines documents reference.id task →
        task.occurrence.hasTask = true → task.occurrence.checked = true) := by
  unfold earlyIssue?
  split
  · next checked =>
    cases search : ((Index.ofDocuments documents).tasksOf reference.id).find?
        fun task => !task.occurrence.checked with
    | none =>
      refine iff_of_true noErrors_nil ?_
      intro _ task defined tracked
      have done := List.find?_eq_none.mp search task (mem_tasksOf_iff.mpr ⟨defined, tracked⟩)
      simpa using done
    | some task =>
      refine iff_of_false (not_noErrors_cons rfl) ?_
      intro all
      obtain ⟨defined, tracked⟩ := mem_tasksOf_iff.mp (List.mem_of_find?_eq_some search)
      have unfinished := List.find?_some search
      simp [all checked task defined tracked] at unfinished
  · next unchecked => exact iff_of_true noErrors_nil fun checked => absurd checked unchecked

theorem noErrors_lateIssue_iff :
    NoErrors (lateIssue? (Index.ofDocuments documents) reference).toList ↔
      (reference.occurrence.hasTask = true → reference.occurrence.checked = false →
        (∃ task, Defines documents reference.id task ∧ task.occurrence.hasTask = true) →
        ∃ task, Defines documents reference.id task ∧ task.occurrence.hasTask = true ∧
          task.occurrence.checked = false) := by
  unfold lateIssue?
  simp only
  split
  · next late =>
    simp only [Bool.and_eq_true, Bool.not_eq_true', List.all_eq_true] at late
    obtain ⟨⟨tracked, unchecked⟩, done⟩ := late
    cases tasks : (Index.ofDocuments documents).tasksOf reference.id with
    | nil =>
      refine iff_of_true noErrors_nil ?_
      rintro _ _ ⟨task, held⟩
      have member := mem_tasksOf_iff.mpr held
      rw [tasks] at member
      cases member
    | cons first more =>
      refine iff_of_false (not_noErrors_cons rfl) ?_
      intro needed
      have some : first ∈ (Index.ofDocuments documents).tasksOf reference.id := by simp [tasks]
      obtain ⟨task, defined, isTask, unfinished⟩ :=
        needed tracked unchecked ⟨first, mem_tasksOf_iff.mp some⟩
      have finished := done task (mem_tasksOf_iff.mpr ⟨defined, isTask⟩)
      have wrong := finished.symm.trans unfinished
      cases wrong
  · next punctual =>
    refine iff_of_true noErrors_nil ?_
    intro tracked unchecked _
    have unfinished : ((Index.ofDocuments documents).tasksOf reference.id).all
        (·.occurrence.checked) = false := by
      simpa only [tracked, unchecked, Bool.and_true, Bool.not_false, Bool.true_and,
        Bool.not_eq_true] using punctual
    obtain ⟨task, member, unfinished⟩ := List.all_eq_false.mp unfinished
    obtain ⟨defined, isTask⟩ := mem_tasksOf_iff.mp member
    exact ⟨task, defined, isTask, by simpa using unfinished⟩

/-- A task that is referred to but is none is no error. -/
theorem noErrors_looseTaskIssue :
    NoErrors (looseTaskIssue? context (Index.ofDocuments documents) reference).toList := by
  intro issue member
  rw [Option.mem_toList] at member
  unfold looseTaskIssue? at member
  simp only [Option.ite_none_right_eq_some, Option.bind_eq_some_iff] at member
  obtain ⟨_, first, _, reported⟩ := member
  split at reported
  · cases reported
  · cases reported
  · obtain rfl := Option.some.inj reported
    rfl

theorem contains_kinds_iff :
    (Index.ofDocuments documents).kinds.contains artifactKind = true ↔
      ∃ document ∈ documents, document.artifactKind = artifactKind := by
  rw [List.contains_iff_mem, mem_kinds_iff]

theorem isUnder_iff {headings : KeySet} :
    reference.occurrence.isUnder headings = true ↔
      ∃ heading ∈ reference.occurrence.active, heading ∈ headings := by
  simp [Occurrence.isUnder, KeySet.contains_iff_mem]

theorem covered_iff {id : String} :
    Covered documents id artifactKind rule ↔
      (Index.ofDocuments documents).referencesFrom id artifactKind ≠ [] ∧
        (rule.headings.isEmpty ||
          ((Index.ofDocuments documents).referencesFrom id artifactKind).any fun reference =>
            reference.occurrence.isUnder rule.headings) = true := by
  have referring (reference : Located) :
      reference ∈ (Index.ofDocuments documents).referencesFrom id artifactKind ↔
        RefersFrom documents id artifactKind reference :=
    mem_referencesFrom_iff
  have some : (∃ reference, RefersFrom documents id artifactKind reference) ↔
      (Index.ofDocuments documents).referencesFrom id artifactKind ≠ [] := by
    simp [List.eq_nil_iff_forall_not_mem, referring]
  simp only [Covered, some, referring, Bool.or_eq_true, List.any_eq_true, isUnder_iff,
    KeySet.isEmpty, List.isEmpty_iff]
  refine and_congr_right fun _ => ⟨?_, ?_⟩
  · intro placed
    by_cases listed : rule.headings.members = []
    · exact .inl listed
    · exact .inr (placed listed)
  · rintro either listed
    exact either.resolve_left listed

/-- Required coverage is an error exactly where there are documents but not the references. -/
theorem noErrors_coverageIssue_iff :
    NoErrors
        (coverageIssue? (Index.ofDocuments documents) definition artifactKind rule).toList ↔
      ((∃ document ∈ documents, document.artifactKind = artifactKind) →
        Covered documents definition.id artifactKind rule) := by
  rw [← contains_kinds_iff, covered_iff]
  unfold coverageIssue?
  cases (Index.ofDocuments documents).kinds.contains artifactKind with
  | false => simpa using noErrors_singleton rfl
  | true =>
    simp only [Bool.not_true, Bool.false_eq_true, ↓reduceIte, forall_const]
    cases (Index.ofDocuments documents).referencesFrom definition.id artifactKind with
    | nil => exact iff_of_false (not_noErrors_cons rfl) fun covered => covered.1 rfl
    | cons first more =>
      simp only
      split
      · next placed => exact iff_of_true noErrors_nil ⟨List.cons_ne_nil first more, placed⟩
      · next misplaced =>
        exact iff_of_false (not_noErrors_cons rfl) fun covered => misplaced covered.2

/-- What the coverage of a rule asks for, as far as it is an error not to have it. -/
theorem noErrors_ruleCoverageIssues_iff :
    NoErrors (ruleCoverageIssues (Index.ofDocuments documents) definition artifactKind rule) ↔
      (rule.coverage = .required →
        (definition.occurrence.checked = true ∨ definition.occurrence.hasTask = false) →
        (∃ document ∈ documents, document.artifactKind = artifactKind) →
        Covered documents definition.id artifactKind rule) ∧
      (rule.coverage = .prohibited →
        ∀ other, ¬ RefersFrom documents definition.id artifactKind other) := by
  have coverable : isCoverable definition = true ↔
      (definition.occurrence.checked = true ∨ definition.occurrence.hasTask = false) := by
    simp [isCoverable]
  unfold ruleCoverageIssues
  cases coverage : rule.coverage with
  | required =>
    simp only [forall_const, reduceCtorEq, false_implies, and_true, ← coverable]
    split
    · next wanted => simp [wanted, noErrors_coverageIssue_iff]
    · next unwanted => exact iff_of_true noErrors_nil fun wanted => absurd wanted unwanted
  | prohibited =>
    simp only [reduceCtorEq, false_implies, true_and, forall_const]
    constructor
    · intro none other refers
      have member := mem_referencesFrom_iff.mpr refers
      have reported := none _ (List.mem_map.mpr ⟨other, member, rfl⟩)
      cases reported
    · intro unreferred issue member
      obtain ⟨other, held, rfl⟩ := List.mem_map.mp member
      exact absurd (mem_referencesFrom_iff.mp held) (unreferred other)
  | optional =>
    simp only [reduceCtorEq, false_implies, and_true, iff_true]
    exact noErrors_nil

/-- What the coverage of a definition asks for, over the rules for all kinds of documents. -/
theorem noErrors_coverageIssues_iff :
    NoErrors (coverageIssues context (Index.ofDocuments documents) definition) ↔
      ∀ rule, ruleOf? context definition = some rule →
        ∀ artifactKind reference, rule.references.find? artifactKind = some reference →
          NoErrors
            (ruleCoverageIssues (Index.ofDocuments documents) definition artifactKind
              reference) := by
  unfold coverageIssues
  cases found : ruleOf? context definition with
  | none => exact iff_of_true noErrors_nil fun rule absent => nomatch absent
  | some rule =>
    simp only [noErrors_flatMap_iff, Option.some.injEq, forall_eq', Prod.forall,
      KeyMap.find?_eq_some_iff]

theorem violation_eq_none_iff {policy : Policy} {present : Bool} :
    policy.violation present = none ↔ Obeys (some policy) present := by
  cases policy <;> cases present <;> simp [Policy.violation, Obeys]

/-- The violation of a policy is an error, whichever the policy. -/
theorem noErrors_policyIssue_iff {policy : Option Policy} {present : Bool}
    {issue : Policy → Issue} (error : ∀ policy, (issue policy).isError = true) :
    NoErrors ((policy.bind (·.violation present)).map issue).toList ↔ Obeys policy present := by
  cases policy with
  | none => simp [Obeys, noErrors_nil]
  | some policy =>
    rw [← violation_eq_none_iff, Option.bind_some]
    cases broken : policy.violation present with
    | none => exact iff_of_true noErrors_nil rfl
    | some part => exact iff_of_false (not_noErrors_cons (error part)) nofun

theorem isError_referenceTaskIssue (policy : Policy) :
    (referenceTaskIssue reference policy).isError = true := by
  cases policy <;> rfl

theorem isError_referencePriorityIssue (policy : Policy) :
    (referencePriorityIssue reference policy).isError = true := by
  cases policy <;> rfl

theorem noErrors_referencePolicyIssues_iff :
    NoErrors (referencePolicyIssues context (Index.ofDocuments documents) reference) ↔
      ∀ definition rule wanted, primary? documents reference.id = some definition →
        ruleOf? context definition = some rule →
        rule.references.find? reference.artifactKind = some wanted →
        Obeys wanted.task reference.occurrence.hasTask ∧
          Obeys wanted.priority reference.occurrence.hasPriority := by
  unfold referencePolicyIssues
  rw [head?_definitionsOf]
  cases search : (primary? documents reference.id).bind fun definition =>
      referenceRuleOf? context definition reference.artifactKind with
  | none =>
    refine iff_of_true noErrors_nil ?_
    intro definition rule wanted first governs asked
    simp [first, referenceRuleOf?, governs, asked] at search
  | some wanted =>
    obtain ⟨definition, first, bound⟩ := Option.bind_eq_some_iff.mp search
    obtain ⟨rule, governs, asked⟩ := Option.bind_eq_some_iff.mp bound
    rw [noErrors_append_iff, noErrors_policyIssue_iff isError_referenceTaskIssue,
      noErrors_policyIssue_iff isError_referencePriorityIssue]
    simp only [first, Option.some.injEq]
    constructor
    · rintro obeyed definition' rule' wanted' rfl governs' asked'
      obtain rfl := Option.some.inj (governs.symm.trans governs')
      obtain rfl := Option.some.inj (asked.symm.trans asked')
      exact obeyed
    · intro all
      exact all definition rule wanted rfl governs asked

theorem noErrors_elsewhereIssues :
    NoErrors (elsewhereIssues (Index.ofDocuments documents) definition) := by
  intro issue member
  obtain ⟨other, _, rfl⟩ := List.mem_map.mp member
  rfl

theorem noErrors_codeIssue_iff {known : KeySet} :
    NoErrors (codeIssue? context known definition).toList ↔
      ∀ rule, ruleOf? context definition = some rule → rule.toCode = true →
        definition.occurrence.checked = true → definition.id ∈ known := by
  unfold codeIssue?
  rw [noErrors_ite_iff rfl, ← KeySet.contains_iff_mem]
  cases ruleOf? context definition with
  | none => simp
  | some rule => simp

theorem noErrors_codeIssues_iff :
    NoErrors (codeIssues context (Index.ofDocuments documents).primaryDefinitions) ↔
      CodeConsistent context documents := by
  unfold codeIssues CodeConsistent
  cases context.codeReferences with
  | none => exact iff_of_true noErrors_nil fun known absent => nomatch absent
  | some known =>
    simp only [noErrors_filterMap_iff, mem_primaryDefinitions_iff, noErrors_codeIssue_iff,
      Option.some.injEq, forall_eq']
    constructor
    · intro all id definition rule first governs traced done
      obtain ⟨_, _, rfl⟩ := primary?_eq_some first
      exact all definition first rule governs traced done
    · intro all definition first rule governs traced done
      exact all definition.id definition rule first governs traced done

/-- Loose tasks and definitions in other documents are no errors, so five checks are left. -/
theorem noErrors_checkAcross_iff :
    NoErrors (checkAcross context documents) ↔
      (∀ reference, Refers documents reference →
        NoErrors (undefinedIssue? context (Index.ofDocuments documents) reference).toList ∧
        NoErrors (earlyIssue? (Index.ofDocuments documents) reference).toList ∧
        NoErrors (lateIssue? (Index.ofDocuments documents) reference).toList ∧
        NoErrors (referencePolicyIssues context (Index.ofDocuments documents) reference)) ∧
      (∀ definition, primary? documents definition.id = some definition →
        NoErrors (coverageIssues context (Index.ofDocuments documents) definition)) ∧
      CodeConsistent context documents := by
  simp only [checkAcross, noErrors_append_iff, noErrors_filterMap_iff, noErrors_flatMap_iff,
    mem_references_iff, mem_primaryDefinitions_iff, noErrors_codeIssues_iff]
  constructor
  · rintro ⟨⟨⟨⟨⟨⟨⟨defined, early⟩, late⟩, _⟩, coverage⟩, policies⟩, _⟩, code⟩
    refine ⟨?_, coverage, code⟩
    intro reference refers
    exact ⟨defined reference refers, early reference refers, late reference refers,
      policies reference refers⟩
  · rintro ⟨references, coverage, code⟩
    refine ⟨⟨⟨⟨⟨⟨⟨?_, ?_⟩, ?_⟩, ?_⟩, coverage⟩, ?_⟩, ?_⟩, code⟩
    · exact fun reference refers => (references reference refers).1
    · exact fun reference refers => (references reference refers).2.1
    · exact fun reference refers => (references reference refers).2.2.1
    · exact fun _ _ => noErrors_looseTaskIssue
    · exact fun reference refers => (references reference refers).2.2.2
    · exact fun _ _ => noErrors_elsewhereIssues

end

/-- The checks across documents find no error exactly if the references of the documents fit their
definitions and the rules, and so do the references of the code where these are known. -/
theorem checkAcross_noErrors_iff (context : Context) (documents : List DocumentScan) :
    (∀ issue ∈ checkAcross context documents, issue.isError = false) ↔
      ReferencesConsistent context documents ∧ CodeConsistent context documents := by
  change NoErrors (checkAcross context documents) ↔ _
  simp only [noErrors_checkAcross_iff, noErrors_undefinedIssue_iff, noErrors_earlyIssue_iff,
    noErrors_lateIssue_iff, noErrors_referencePolicyIssues_iff, noErrors_coverageIssues_iff,
    noErrors_ruleCoverageIssues_iff]
  constructor
  · rintro ⟨references, coverage, code⟩
    refine ⟨⟨?defined, ?done, ?pending, ?covered, ?prohibited, ?permitted⟩, code⟩
    case defined => exact fun reference refers => (references reference refers).1
    case done => exact fun reference refers => (references reference refers).2.1
    case pending => exact fun reference refers => (references reference refers).2.2.1
    case covered =>
      intro id definition rule artifactKind reference first governs asked required
      obtain ⟨_, _, rfl⟩ := primary?_eq_some first
      exact (coverage definition first rule governs artifactKind reference asked).1 required
    case prohibited =>
      intro id definition rule artifactKind reference first governs asked prohibited
      obtain ⟨_, _, rfl⟩ := primary?_eq_some first
      exact (coverage definition first rule governs artifactKind reference asked).2 prohibited
    case permitted =>
      intro reference definition rule wanted refers
      exact (references reference refers).2.2.2 definition rule wanted
  · rintro ⟨consistent, code⟩
    refine ⟨?_, ?_, code⟩
    · intro reference refers
      refine ⟨consistent.defined reference refers, consistent.done reference refers,
        consistent.pending reference refers, ?_⟩
      intro definition rule wanted first governs asked
      exact consistent.permitted reference definition rule wanted refers first governs asked
    · intro definition first rule governs artifactKind reference asked
      exact ⟨consistent.covered _ definition rule artifactKind reference first governs asked,
        consistent.prohibited _ definition rule artifactKind reference first governs asked⟩

/-- A context where the code refers to nothing, although it should to the requirements that are
done. -/
def untracedContext : Context :=
  let rule : IdRule :=
    ⟨"fr", false, none, none, none, .allowed, .allowed, true, ∅, ∅, ∅⟩
  let contract : Contract := ⟨"PRD", none, [], KeyMap.empty.insert "fr" rule⟩
  .ofSchema ⟨Schema.currentVersion, Schema.currentKind, "", KeyMap.empty.insert "PRD" contract⟩
    ["app"] [] (some [])

/-- A document that defines a requirement that is done. -/
def doneRequirement : DocumentScan :=
  ⟨"docs/PRD.md", "PRD", [⟨⟨"cpt-app-fr-login", "app", "fr", "login", none⟩, .definition, 3, true,
    true, none, [], none⟩]⟩

/-- References of the documents that fit are not enough: the code can leave one out. -/
theorem referencesConsistent_not_enough :
    ¬ ((∀ issue ∈ checkAcross untracedContext [doneRequirement], issue.isError = false) ↔
      ReferencesConsistent untracedContext [doneRequirement]) := by
  have only (located : Located) (member : located ∈ locate [doneRequirement]) :
      located = ⟨0, "docs/PRD.md", "PRD", doneRequirement.occurrences.head (by decide)⟩ := by
    simpa [locate, doneRequirement] using member
  have unreferenced (reference : Located) : ¬ Refers [doneRequirement] reference := by
    rintro ⟨member, reading⟩
    rw [only reference member] at reading
    cases reading
  have consistent : ReferencesConsistent untracedContext [doneRequirement] := by
    constructor
    case defined => exact fun reference refers => absurd refers (unreferenced reference)
    case done => exact fun reference refers => absurd refers (unreferenced reference)
    case pending => exact fun reference refers => absurd refers (unreferenced reference)
    case covered =>
      intro id definition rule artifactKind reference first governs asked
      rw [only definition (primary?_eq_some first).1] at governs
      obtain rfl := Option.some.inj governs
      cases asked
    case prohibited => exact fun _ _ _ _ _ _ _ _ _ other refers => unreferenced other refers.1
    case permitted => exact fun reference _ _ _ refers => absurd refers (unreferenced reference)
  intro equivalence
  have code := (noErrors_checkAcross_iff.mp (equivalence.mpr consistent)).2.2
  have known := code ∅ rfl "cpt-app-fr-login" _ _ rfl rfl rfl rfl
  cases known

end DocContract.Validation
