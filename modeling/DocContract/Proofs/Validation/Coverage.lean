import DocContract.Proofs.Sorted.Entries
import DocContract.Proofs.Validation.Causes
import DocContract.Proofs.Validation.Consistency
import DocContract.Proofs.Validation.Position
import Mathlib.Data.List.Nodup

namespace DocContract.Validation

open DocContract.Sorted DocContract.Identifier

/-- The second document set has one occurrence more than the first, in a document of the kind. -/
inductive AddsOccurrence (artifactKind : String) (added : Occurrence) :
    List DocumentScan → List DocumentScan → Prop where
  | intro (before after : List DocumentScan) (path : String) (front back : List Occurrence) :
    AddsOccurrence artifactKind added
      (before ++ ⟨path, artifactKind, front ++ back⟩ :: after)
      (before ++ ⟨path, artifactKind, front ++ added :: back⟩ :: after)

/-- The identifier is defined here alone and is done or no task; its rule requires a reference from
documents of the kind, of which there are some, but none refers to it. -/
structure LacksReference (context : Context) (documents : List DocumentScan)
    (definition : Located) (artifactKind : String) (rule : ReferenceRule) : Prop where
  once : (locate documents).filter (fun located =>
    located.isDefinition && located.id == definition.id) = [definition]
  asked : ∃ idRule,
    context.schema.findIdRule? definition.artifactKind definition.occurrence.kind = some idRule ∧
      idRule.references.find? artifactKind = some rule
  required : rule.coverage = .required
  coverable : definition.occurrence.checked = true ∨ definition.occurrence.hasTask = false
  inScope : ∃ document ∈ documents, document.artifactKind = artifactKind
  unreferenced : ∀ reference, ¬ RefersFrom documents definition.id artifactKind reference

/-- The occurrence is a reference to the definition as the rule wants it. -/
structure Answers (rule : ReferenceRule) (definition : Located) (reference : Occurrence) :
    Prop where
  refers : reference.isDefinition = false
  id : reference.id = definition.id
  placed : rule.headings.members = [] ∨ ∃ heading ∈ reference.active, heading ∈ rule.headings
  task : Obeys rule.task reference.hasTask
  priority : Obeys rule.priority reference.hasPriority
  state : reference.hasTask = true → definition.occurrence.hasTask = true →
    reference.checked = definition.occurrence.checked

/-- Whether the issue is that documents of the kind do not refer to the identifier. -/
def reportsMissing (id artifactKind : String) (issue : Issue) : Bool :=
  issue.code == .refMissingFromKind &&
    (issue.context.find? "id").bind Json.text? == some id &&
    (issue.context.find? "target_kind").bind Json.text? == some artifactKind

/-- An item whose key comes once splits the list into items with other keys. -/
theorem exists_split_of_nodup {items : List α} {item : α} {key : α → β}
    (unique : (items.map key).Nodup) (member : item ∈ items) :
    ∃ front back, items = front ++ item :: back ∧
      (∀ other ∈ front, key other ≠ key item) ∧ ∀ other ∈ back, key other ≠ key item := by
  obtain ⟨front, back, rfl⟩ := List.append_of_mem member
  rw [List.map_append, List.map_cons, List.nodup_middle, List.nodup_cons, List.mem_append,
    not_or] at unique
  obtain ⟨⟨before, behind⟩, _⟩ := unique
  refine ⟨front, back, rfl, ?_, ?_⟩
  · intro other inside same
    exact before (List.mem_map.mpr ⟨other, inside, same⟩)
  · intro other inside same
    exact behind (List.mem_map.mpr ⟨other, inside, same⟩)

section

variable {context : Context} {documents more : List DocumentScan} {index extended : Index}
variable {definition located : Located} {added : Occurrence} {artifactKind id : String}
variable {rule : ReferenceRule} {issue : Issue}

theorem head?_definitionsOf_isSome {index : Index}
    (named : id ∈ index.definitions.map Located.id) :
    ∃ definition, (index.definitionsOf id).head? = some definition ∧ definition.id = id := by
  obtain ⟨definition, member, rfl⟩ := List.mem_map.mp named
  have kept : definition ∈ index.definitionsOf definition.id := by
    simp [Index.definitionsOf, member]
  obtain ⟨first, rest, shape⟩ := List.exists_cons_of_ne_nil (List.ne_nil_of_mem kept)
  refine ⟨first, by rw [shape]; rfl, ?_⟩
  have own : first ∈ index.definitionsOf definition.id := shape ▸ List.mem_cons_self
  simpa [Index.definitionsOf] using (List.mem_filter.mp own).2

theorem nodup_id_primaryDefinitions (index : Index) :
    (index.primaryDefinitions.map Located.id).Nodup := by
  obtain ⟨ids, named⟩ : ∃ ids, ids = (KeySet.ofList (index.definitions.map Located.id)) := ⟨_, rfl⟩
  have whole : (ids.members.filterMap fun id => (index.definitionsOf id).head?).map Located.id =
      ids.members := by
    rw [List.map_filterMap]
    conv_rhs => rw [← List.filterMap_some (l := ids.members)]
    apply List.filterMap_congr
    intro id member
    rw [named, KeySet.mem_ofList] at member
    obtain ⟨definition, first, own⟩ := head?_definitionsOf_isSome member
    rw [first, Option.map_some, own]
  have distinct : ids.members.Nodup :=
    ids.sorted.imp String.ne_of_lt
  rw [← whole] at distinct
  rw [Index.primaryDefinitions, ← named]
  exact (((List.mergeSort_perm _ _).map Located.id).nodup_iff).mpr distinct

theorem reportsMissing_uncoveredIssue {otherKind : String} :
    reportsMissing id artifactKind (uncoveredIssue definition otherKind) = true ↔
      definition.id = id ∧ otherKind = artifactKind := by
  have entries : (uncoveredIssue definition otherKind).context.entries =
      [("id", .string definition.id), ("target_kind", .string otherKind)] := by
    have sorted : ["id", "target_kind"].Pairwise (· < ·) := by decide +kernel
    exact KeyMap.entries_ofList sorted
  have named : (uncoveredIssue definition otherKind).context.find? "id" =
      some (.string definition.id) := by
    simp [KeyMap.find?_eq_some_iff, entries]
  have target : (uncoveredIssue definition otherKind).context.find? "target_kind" =
      some (.string otherKind) := by
    simp [KeyMap.find?_eq_some_iff, entries]
  simp only [reportsMissing, named, target]
  simp [uncoveredIssue, Located.issue, Issue.ofEntries, Json.text?]

theorem code_of_reportsMissing (reported : reportsMissing id artifactKind issue = true) :
    issue.code = .refMissingFromKind := by
  simp only [reportsMissing, Bool.and_eq_true, beq_iff_eq] at reported
  exact reported.1.1

/-- Nothing but the coverage of the definitions is reported in this way. -/
theorem filter_reportsMissing_checkAcross :
    (checkAcross context documents).filter (reportsMissing id artifactKind) =
      (Index.ofDocuments documents).primaryDefinitions.flatMap fun definition =>
        (coverageIssues context (Index.ofDocuments documents) definition).filter
          (reportsMissing id artifactKind) := by
  have silent {issues : List Issue} (other : ∀ issue ∈ issues, issue.code ≠ .refMissingFromKind) :
      issues.filter (reportsMissing id artifactKind) = [] :=
    List.filter_eq_nil_iff.mpr fun issue member reported =>
      other issue member (code_of_reportsMissing reported)
  obtain ⟨before, behind, shape, codes⟩ := checkAcross_segments context documents
  have others : ∀ issue ∈ before ++ behind, issue.code ≠ .refMissingFromKind := by
    intro issue member code
    simpa [code] using codes issue member
  rw [List.forall_mem_append] at others
  have undefined : ((Index.ofDocuments documents).references.filterMap
      (undefinedIssue? context (Index.ofDocuments documents))).filter
        (reportsMissing id artifactKind) = [] := by
    apply silent
    intro issue member
    obtain ⟨reference, _, reported⟩ := List.mem_filterMap.mp member
    simp [code_of_mem_undefinedIssue? reported]
  simp only [shape, List.filter_append, undefined, silent others.1, silent others.2,
    List.filter_flatMap, List.nil_append, List.append_nil]

theorem filter_ruleCoverageIssues {otherKind : String} {wanted : ReferenceRule}
    (other : definition.id ≠ id ∨ otherKind ≠ artifactKind) :
    (ruleCoverageIssues index definition otherKind wanted).filter
      (reportsMissing id artifactKind) = [] := by
  refine List.filter_eq_nil_iff.mpr fun issue member reported => ?_
  obtain rfl := eq_uncoveredIssue_of_code member (code_of_reportsMissing reported)
  obtain ⟨sameId, sameKind⟩ := reportsMissing_uncoveredIssue.mp reported
  exact other.elim (absurd sameId) (absurd sameKind)

theorem filter_coverageIssues (other : definition.id ≠ id) :
    (coverageIssues context index definition).filter (reportsMissing id artifactKind) = [] := by
  unfold coverageIssues
  split
  · rfl
  · rw [List.filter_flatMap, List.flatMap_eq_nil_iff]
    exact fun _ _ => filter_ruleCoverageIssues (.inl other)

namespace LacksReference

variable (lacks : LacksReference context documents definition artifactKind rule)

include lacks

theorem definitionsOf :
    (Index.ofDocuments documents).definitionsOf definition.id = [definition] := by
  rw [← lacks.once]
  simp only [Index.definitionsOf, Index.ofDocuments, List.filter_filter, Bool.and_comm]

theorem primary : primary? documents definition.id = some definition := by
  rw [← head?_definitionsOf, lacks.definitionsOf]
  rfl

theorem eq_of_defines (defines : Defines documents definition.id located) :
    located = definition := by
  have member := mem_definitionsOf_iff.mpr defines
  rw [lacks.definitionsOf] at member
  exact List.mem_singleton.mp member

theorem referencesFrom :
    (Index.ofDocuments documents).referencesFrom definition.id artifactKind = [] :=
  List.eq_nil_iff_forall_not_mem.mpr fun reference member =>
    lacks.unreferenced reference (mem_referencesFrom_iff.mp member)

theorem ruleCoverageIssues_eq :
    ruleCoverageIssues (Index.ofDocuments documents) definition artifactKind rule =
      [uncoveredIssue definition artifactKind] := by
  have wanted : isCoverable definition = true := by
    simpa [isCoverable] using lacks.coverable
  have present : artifactKind ∈ (Index.ofDocuments documents).kinds :=
    mem_kinds_iff.mpr lacks.inScope
  simp [ruleCoverageIssues, lacks.required, wanted, coverageIssue?, lacks.referencesFrom, present]

/-- What is reported about the definition, around the report on this kind of documents. -/
theorem coverageIssues_split : ∃ front back : List (String × ReferenceRule),
    (∀ entry ∈ front, entry.1 ≠ artifactKind) ∧ (∀ entry ∈ back, entry.1 ≠ artifactKind) ∧
      ∀ index, coverageIssues context index definition =
        (front.flatMap fun entry => ruleCoverageIssues index definition entry.1 entry.2) ++
          ruleCoverageIssues index definition artifactKind rule ++
          back.flatMap fun entry => ruleCoverageIssues index definition entry.1 entry.2 := by
  obtain ⟨idRule, governs, asked⟩ := lacks.asked
  have keys : (idRule.references.entries.map Prod.fst).Nodup :=
    idRule.references.sorted.imp String.ne_of_lt
  obtain ⟨front, back, shape, before, behind⟩ :=
    exists_split_of_nodup keys (KeyMap.find?_eq_some_iff.mp asked)
  refine ⟨front, back, before, behind, fun index => ?_⟩
  have found : ruleOf? context definition = some idRule := governs
  simp [coverageIssues, found, shape]

/-- The primary definitions around this one. -/
theorem primaryDefinitions_split : ∃ front back,
    (Index.ofDocuments documents).primaryDefinitions = front ++ definition :: back ∧
      (∀ other ∈ front, other.id ≠ definition.id) ∧ ∀ other ∈ back, other.id ≠ definition.id :=
  exists_split_of_nodup (nodup_id_primaryDefinitions _)
    (mem_primaryDefinitions_iff.mpr lacks.primary)

theorem filter_checkAcross :
    (checkAcross context documents).filter (reportsMissing definition.id artifactKind) =
      [uncoveredIssue definition artifactKind] := by
  obtain ⟨front, back, shape, before, behind⟩ := lacks.primaryDefinitions_split
  obtain ⟨ahead, rest, earlier, later, own⟩ := lacks.coverageIssues_split
  have report : reportsMissing definition.id artifactKind
      (uncoveredIssue definition artifactKind) = true :=
    reportsMissing_uncoveredIssue.mpr ⟨rfl, rfl⟩
  have silent {entries : List (String × ReferenceRule)}
      (other : ∀ entry ∈ entries, entry.1 ≠ artifactKind) :
      (entries.flatMap fun entry => ruleCoverageIssues (Index.ofDocuments documents) definition
        entry.1 entry.2).filter (reportsMissing definition.id artifactKind) = [] := by
    rw [List.filter_flatMap, List.flatMap_eq_nil_iff]
    exact fun entry member => filter_ruleCoverageIssues (.inr (other entry member))
  have apart {definitions : List Located} (other : ∀ located ∈ definitions,
      located.id ≠ definition.id) : (definitions.flatMap fun located =>
        (coverageIssues context (Index.ofDocuments documents) located).filter
          (reportsMissing definition.id artifactKind)) = [] :=
    List.flatMap_eq_nil_iff.mpr fun located member => filter_coverageIssues (other located member)
  rw [filter_reportsMissing_checkAcross, shape, List.flatMap_append, List.flatMap_cons,
    apart before, apart behind, own, lacks.ruleCoverageIssues_eq]
  simp only [List.filter_append, silent earlier, silent later, List.filter_cons, report]
  rfl

end LacksReference

/-- The second index has one reference more than the first. -/
structure Index.Extends (index extended : Index) (reference : Located) : Prop where
  definitions : extended.definitions = index.definitions
  kinds : extended.kinds = index.kinds
  references : ∃ front back,
    index.references = front ++ back ∧ extended.references = front ++ reference :: back

/-- The occurrences of a document stand between those of the documents before it and behind. -/
theorem locate_middle (before after : List DocumentScan) (document : DocumentScan) :
    locate (before ++ document :: after) = locate before ++
      document.occurrences.map (fun occurrence =>
        ⟨before.length, document.path, document.artifactKind, occurrence⟩) ++
      (after.zipIdx (before.length + 1)).flatMap fun (document, order) =>
        document.occurrences.map fun occurrence =>
          ⟨order, document.path, document.artifactKind, occurrence⟩ := by
  simp [locate, List.zipIdx_append, List.zipIdx_cons]

theorem AddsOccurrence.exists_extends (adds : AddsOccurrence artifactKind added documents more)
    (refers : added.isDefinition = false) : ∃ reference : Located,
      reference.artifactKind = artifactKind ∧ reference.occurrence = added ∧
        (Index.ofDocuments documents).Extends (Index.ofDocuments more) reference := by
  obtain ⟨before, after, path, front, back⟩ := adds
  let place (occurrence : Occurrence) : Located :=
    ⟨before.length, path, artifactKind, occurrence⟩
  let behind := (after.zipIdx (before.length + 1)).flatMap fun (document, order) =>
    document.occurrences.map fun occurrence =>
      (⟨order, document.path, document.artifactKind, occurrence⟩ : Located)
  have first : locate (before ++ ⟨path, artifactKind, front ++ back⟩ :: after) =
      (locate before ++ front.map place) ++ (back.map place ++ behind) := by
    simp [locate_middle, place, behind]
  have second : locate (before ++ ⟨path, artifactKind, front ++ added :: back⟩ :: after) =
      (locate before ++ front.map place) ++ place added :: (back.map place ++ behind) := by
    simp [locate_middle, place, behind]
  have role : (place added).isDefinition = false := refers
  refine ⟨place added, rfl, rfl, ?_, ?_, ?_⟩
  · simp [Index.ofDocuments, first, second, role, List.filter_append]
  · simp [Index.ofDocuments]
  · refine ⟨(locate before ++ front.map place).filter (!·.isDefinition),
      (back.map place ++ behind).filter (!·.isDefinition), ?_, ?_⟩
    · simp only [Index.ofDocuments, first, List.filter_append]
    · simp only [Index.ofDocuments, second, List.filter_append, List.filter_cons, role]
      rfl

namespace Index.Extends

variable {reference : Located} (larger : index.Extends extended reference)

include larger

theorem definitionsOf_eq (id : String) : extended.definitionsOf id = index.definitionsOf id := by
  rw [Index.definitionsOf, larger.definitions, Index.definitionsOf]

theorem alike : extended.Alike index := by
  intro id
  rw [larger.definitionsOf_eq]

theorem primaryDefinitions_eq : extended.primaryDefinitions = index.primaryDefinitions := by
  simp only [Index.primaryDefinitions, larger.definitions, larger.definitionsOf_eq]

theorem referencesFrom_eq (apart : reference.id ≠ id ∨ reference.artifactKind ≠ artifactKind) :
    extended.referencesFrom id artifactKind = index.referencesFrom id artifactKind := by
  obtain ⟨front, back, first, second⟩ := larger.references
  have other : (reference.id == id && reference.artifactKind == artifactKind) = false := by
    rw [Bool.and_eq_false_iff, beq_eq_false_iff_ne, beq_eq_false_iff_ne]
    exact apart
  simp [Index.referencesFrom, first, second, other]

theorem referencesFrom_new (none : index.referencesFrom reference.id reference.artifactKind = []) :
    extended.referencesFrom reference.id reference.artifactKind = [reference] := by
  obtain ⟨front, back, first, second⟩ := larger.references
  rw [Index.referencesFrom, first, List.filter_append, List.append_eq_nil_iff] at none
  rw [Index.referencesFrom, second, List.filter_append, none.1, List.filter_cons, none.2]
  simp

/-- The coverage is the same but by documents of this kind and for this identifier. -/
theorem ruleCoverageIssues_eq {wanted : ReferenceRule}
    (apart : reference.id ≠ located.id ∨ reference.artifactKind ≠ artifactKind) :
    ruleCoverageIssues extended located artifactKind wanted =
      ruleCoverageIssues index located artifactKind wanted := by
  simp only [ruleCoverageIssues, coverageIssue?, larger.kinds, larger.referencesFrom_eq apart]

theorem coverageIssues_eq (apart : reference.id ≠ located.id) :
    coverageIssues context extended located = coverageIssues context index located := by
  simp only [coverageIssues, larger.ruleCoverageIssues_eq (.inl apart)]

/-- A check of the references finds the same errors if there is none with the new one. -/
theorem errors_flatMap {check : Located → List Issue} (silent : NoErrors (check reference)) :
    (extended.references.flatMap check).filter (·.isError) =
      (index.references.flatMap check).filter (·.isError) := by
  obtain ⟨front, back, first, second⟩ := larger.references
  have none : (check reference).filter (·.isError) = [] := by
    refine List.filter_eq_nil_iff.mpr fun issue member error => ?_
    exact Bool.false_ne_true ((silent issue member).symm.trans error)
  simp [first, second, List.filter_append, none]

theorem errors_filterMap {check : Located → Option Issue}
    (silent : NoErrors (check reference).toList) :
    (extended.references.filterMap check).filter (·.isError) =
      (index.references.filterMap check).filter (·.isError) := by
  simp only [List.filterMap_eq_flatMap_toList]
  exact larger.errors_flatMap silent

theorem undefinedIssue?_eq :
    undefinedIssue? context extended = undefinedIssue? context index :=
  funext fun _ => larger.alike.undefinedIssue?_eq

theorem earlyIssue?_eq : earlyIssue? extended = earlyIssue? index :=
  funext fun _ => larger.alike.earlyIssue?_eq

theorem lateIssue?_eq : lateIssue? extended = lateIssue? index :=
  funext fun _ => larger.alike.lateIssue?_eq

theorem looseTaskIssue?_eq :
    looseTaskIssue? context extended = looseTaskIssue? context index :=
  funext fun _ => larger.alike.looseTaskIssue?_eq

theorem referencePolicyIssues_eq :
    referencePolicyIssues context extended = referencePolicyIssues context index :=
  funext fun _ => larger.alike.referencePolicyIssues_eq

theorem elsewhereIssues_eq : elsewhereIssues extended = elsewhereIssues index :=
  funext fun _ => larger.alike.elsewhereIssues_eq

end Index.Extends

namespace LacksReference

variable (lacks : LacksReference context documents definition artifactKind rule)

include lacks

theorem defines : Defines documents definition.id definition :=
  primary?_eq_some lacks.primary

section

variable {reference : Located} (answers : Answers rule definition reference.occurrence)

include answers

theorem noErrors_undefinedIssue :
    NoErrors (undefinedIssue? context (Index.ofDocuments documents) reference).toList := by
  refine noErrors_undefinedIssue_iff.mpr fun undefined => ?_
  have own : reference.id = definition.id := answers.id
  exact absurd lacks.defines (own ▸ undefined definition)

theorem noErrors_earlyIssue :
    NoErrors (earlyIssue? (Index.ofDocuments documents) reference).toList := by
  refine noErrors_earlyIssue_iff.mpr fun _ task defined tracked => ?_
  have own : reference.id = definition.id := answers.id
  obtain rfl := lacks.eq_of_defines (own ▸ defined)
  exact lacks.coverable.resolve_right (ne_true_of_eq_false · tracked)

theorem noErrors_lateIssue :
    NoErrors (lateIssue? (Index.ofDocuments documents) reference).toList := by
  refine noErrors_lateIssue_iff.mpr ?_
  rintro tracked unchecked ⟨task, defined, isTask⟩
  have own : reference.id = definition.id := answers.id
  obtain rfl := lacks.eq_of_defines (own ▸ defined)
  exact ⟨task, defined, isTask, (answers.state tracked isTask).symm.trans unchecked⟩

theorem noErrors_referencePolicyIssues (kind : reference.artifactKind = artifactKind) :
    NoErrors (referencePolicyIssues context (Index.ofDocuments documents) reference) := by
  refine noErrors_referencePolicyIssues_iff.mpr fun first idRule wanted found governs asked => ?_
  have own : reference.id = definition.id := answers.id
  obtain rfl := lacks.eq_of_defines (own ▸ primary?_eq_some found)
  obtain ⟨asking, governed, wants⟩ := lacks.asked
  obtain rfl := Option.some.inj (governed.symm.trans governs)
  obtain rfl := Option.some.inj (wants.symm.trans (kind ▸ asked))
  exact ⟨answers.task, answers.priority⟩

/-- With the reference the definition is covered by the documents of the kind. -/
theorem ruleCoverageIssues_extended (kind : reference.artifactKind = artifactKind)
    (larger : (Index.ofDocuments documents).Extends extended reference) :
    ruleCoverageIssues extended definition artifactKind rule = [] := by
  have own : reference.id = definition.id := answers.id
  have referring : extended.referencesFrom definition.id artifactKind = [reference] := by
    rw [← own, ← kind]
    exact larger.referencesFrom_new (own ▸ kind ▸ lacks.referencesFrom)
  have present : artifactKind ∈ extended.kinds := by
    rw [larger.kinds]
    exact mem_kinds_iff.mpr lacks.inScope
  have placed : rule.headings.isEmpty || reference.occurrence.isUnder rule.headings := by
    rw [Bool.or_eq_true, isUnder_iff, KeySet.isEmpty, List.isEmpty_iff]
    exact answers.placed
  simp only [ruleCoverageIssues, lacks.required, coverageIssue?, referring]
  simp [present, placed]

/-- The coverage of the definitions loses the one report by the reference. -/
theorem perm_coverageIssues (kind : reference.artifactKind = artifactKind)
    (larger : (Index.ofDocuments documents).Extends extended reference) :
    ((Index.ofDocuments documents).primaryDefinitions.flatMap
        (coverageIssues context (Index.ofDocuments documents))).Perm
      (uncoveredIssue definition artifactKind ::
        extended.primaryDefinitions.flatMap (coverageIssues context extended)) := by
  have own : reference.id = definition.id := answers.id
  obtain ⟨front, back, shape, before, behind⟩ := lacks.primaryDefinitions_split
  obtain ⟨ahead, rest, earlier, later, split⟩ := lacks.coverageIssues_split
  have same {definitions : List Located}
      (others : ∀ other ∈ definitions, other.id ≠ definition.id) :
      definitions.flatMap (coverageIssues context extended) =
        definitions.flatMap (coverageIssues context (Index.ofDocuments documents)) :=
    List.flatMap_congr fun other member =>
      larger.coverageIssues_eq fun equal => others other member (equal.symm.trans own)
  have alike {entries : List (String × ReferenceRule)}
      (others : ∀ entry ∈ entries, entry.1 ≠ artifactKind) :
      (entries.flatMap fun entry => ruleCoverageIssues extended definition entry.1 entry.2) =
        entries.flatMap fun entry =>
          ruleCoverageIssues (Index.ofDocuments documents) definition entry.1 entry.2 :=
    List.flatMap_congr fun entry member =>
      larger.ruleCoverageIssues_eq (.inr fun equal => others entry member (equal.symm.trans kind))
  rw [larger.primaryDefinitions_eq, shape]
  simp only [List.flatMap_append, List.flatMap_cons, same before, same behind, split,
    alike earlier, alike later, lacks.ruleCoverageIssues_eq,
    lacks.ruleCoverageIssues_extended answers kind larger]
  simp only [List.append_assoc, List.singleton_append, List.nil_append]
  rw [← List.append_assoc, ← List.append_assoc (front.flatMap _)]
  exact List.perm_middle

end

/-- The errors lose the one report by the reference. -/
theorem perm_errors_checkAcross (adds : AddsOccurrence artifactKind added documents more)
    (answers : Answers rule definition added) :
    ((checkAcross context documents).filter (·.isError)).Perm
      (uncoveredIssue definition artifactKind ::
        (checkAcross context more).filter (·.isError)) := by
  obtain ⟨reference, kind, rfl, larger⟩ := adds.exists_extends answers.refers
  have coverage := (lacks.perm_coverageIssues answers kind larger).filter (·.isError)
  rw [List.filter_cons_of_pos rfl] at coverage
  have undefined := larger.errors_filterMap (lacks.noErrors_undefinedIssue answers)
  have early := larger.errors_filterMap (lacks.noErrors_earlyIssue answers)
  have late := larger.errors_filterMap (lacks.noErrors_lateIssue answers)
  have silent : NoErrors
      (looseTaskIssue? context (Index.ofDocuments documents) reference).toList :=
    noErrors_looseTaskIssue
  have loose := larger.errors_filterMap silent
  have policies := larger.errors_flatMap (lacks.noErrors_referencePolicyIssues answers kind)
  simp only [checkAcross, larger.undefinedIssue?_eq, larger.earlyIssue?_eq, larger.lateIssue?_eq,
    larger.looseTaskIssue?_eq, larger.referencePolicyIssues_eq, larger.elsewhereIssues_eq,
    larger.primaryDefinitions_eq, List.filter_append, undefined, early, late, loose, policies]
  rw [larger.primaryDefinitions_eq] at coverage
  refine ((((coverage.append_left _).append_right _).append_right _).append_right _).trans ?_
  simp only [List.append_assoc, List.cons_append]
  simp only [← List.append_assoc]
  exact List.perm_middle.trans (.of_eq (by simp only [List.append_assoc]))

end LacksReference

end

/-- A reference that is missing is reported once, and adding it takes this away from the errors and
changes nothing else about them. -/
theorem reference_coverage_round_trip (context : Context) (documents : List DocumentScan)
    (definition : Located) (artifactKind : String) (rule : ReferenceRule)
    (lacks : LacksReference context documents definition artifactKind rule) :
    (checkAcross context documents).filter (reportsMissing definition.id artifactKind) =
        [uncoveredIssue definition artifactKind] ∧
      ∀ added more, Answers rule definition added →
        AddsOccurrence artifactKind added documents more →
        ((checkAcross context documents).filter (·.isError)).Perm
          (uncoveredIssue definition artifactKind ::
            (checkAcross context more).filter (·.isError)) :=
  ⟨lacks.filter_checkAcross, fun _ _ answers adds => lacks.perm_errors_checkAcross adds answers⟩

/-- Designs have to refer to requirements as tasks in their overviews. -/
def overviewRule : ReferenceRule :=
  ⟨.required, some .required, some .prohibited, KeySet.ofList ["overview"]⟩

def overviewContext : Context :=
  let rule : IdRule := ⟨"fr", false, none, none, none, .allowed, .allowed, false, ∅, ∅,
    KeyMap.empty.insert "DESIGN" overviewRule⟩
  let contract : Contract := ⟨"PRD", none, [], KeyMap.empty.insert "fr" rule⟩
  .ofSchema ⟨Schema.currentVersion, Schema.currentKind, "", KeyMap.empty.insert "PRD" contract⟩
    ["app"] [] none

def overviewReference : Occurrence :=
  ⟨⟨"cpt-app-fr-login", "app", "fr", "login", none⟩, .reference, 5, true, true, none,
    ["overview"], some 0⟩

/-- Without the reference the design gives one error, and with it none. -/
theorem overview_reference_round_trip :
    let documents (occurrences : List Occurrence) : List DocumentScan :=
      [doneRequirement, ⟨"docs/DESIGN.md", "DESIGN", occurrences⟩]
    let definition : Located :=
      ⟨0, "docs/PRD.md", "PRD", doneRequirement.occurrences.head (by decide)⟩
    LacksReference overviewContext (documents []) definition "DESIGN" overviewRule ∧
      Answers overviewRule definition overviewReference ∧
      AddsOccurrence "DESIGN" overviewReference (documents []) (documents [overviewReference]) ∧
      (checkAcross overviewContext (documents [])).filter
          (reportsMissing "cpt-app-fr-login" "DESIGN") = [uncoveredIssue definition "DESIGN"] ∧
      ((checkAcross overviewContext (documents [])).filter (·.isError)).Perm
        (uncoveredIssue definition "DESIGN" ::
          (checkAcross overviewContext (documents [overviewReference])).filter (·.isError)) := by
  intro documents definition
  have lacks : LacksReference overviewContext (documents []) definition "DESIGN" overviewRule :=
    { once := rfl
      asked := ⟨_, rfl, rfl⟩
      required := rfl
      coverable := .inl rfl
      inScope := ⟨_, List.mem_cons_of_mem _ List.mem_cons_self, rfl⟩
      unreferenced := by
        rintro reference ⟨⟨member, reading⟩, _⟩
        have own : reference = definition := List.mem_singleton.mp member
        rw [own] at reading
        cases reading }
  have answers : Answers overviewRule definition overviewReference :=
    { refers := rfl
      id := rfl
      placed := .inr ⟨"overview", List.mem_cons_self, KeySet.mem_ofList.mpr List.mem_cons_self⟩
      task := ⟨fun _ => rfl, nofun⟩
      priority := ⟨nofun, fun _ => rfl⟩
      state := fun _ _ => rfl }
  have adds : AddsOccurrence "DESIGN" overviewReference (documents [])
      (documents [overviewReference]) :=
    .intro [doneRequirement] [] "docs/DESIGN.md" [] []
  obtain ⟨once, cleared⟩ := reference_coverage_round_trip overviewContext (documents []) definition
    "DESIGN" overviewRule lacks
  exact ⟨lacks, answers, adds, once, cleared _ _ answers adds⟩

end DocContract.Validation
