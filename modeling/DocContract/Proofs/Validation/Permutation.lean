import DocContract.Proofs.Sorted.Entries
import DocContract.Proofs.Validation.Consistency
import DocContract.Proofs.Validation.Position
import DocContract.Validation.Document
import Mathlib.Data.List.Perm.Basic

/-!
The order of the documents: if no identifier is defined in two of them, the report has the same
issues in whichever order the documents come.
-/

namespace DocContract.Validation

open DocContract.Sorted DocContract.Identifier

/-- The issue without the place of the first of the references that it is about. -/
def withoutReference (issue : Issue) : Issue :=
  if issue.code = .refWrongHeadings then
    { issue with context := issue.context.without ["reference_path", "reference_line"] }
  else issue

/-- The document defines the identifier, as it is read for the contract of its kind. -/
def DefinesIn (context : Context) (document : Document) (id : String) : Prop :=
  ∃ scan, (validateDocument context document).scan = some scan ∧
    ∃ occurrence ∈ scan.occurrences, occurrence.isDefinition = true ∧ occurrence.id = id

/-- No identifier is defined in two different documents. -/
def DefinedApart (context : Context) (documents : List Document) : Prop :=
  ∀ first ∈ documents, ∀ second ∈ documents, ∀ id,
    DefinesIn context first id → DefinesIn context second id → first = second

/-- What only one item contributes to is the same for all orders of the items. -/
theorem flatMap_eq_of_perm {items others : List α} {make : α → List β}
    (perm : items.Perm others)
    (alone : ∀ first ∈ items, ∀ second ∈ items, make first ≠ [] → make second ≠ [] →
      first = second) :
    items.flatMap make = others.flatMap make := by
  induction perm with
  | nil => rfl
  | cons item _ ih =>
    have rest := ih fun first member second inside =>
      alone first (List.mem_cons_of_mem _ member) second (List.mem_cons_of_mem _ inside)
    rw [List.flatMap_cons, List.flatMap_cons, rest]
  | swap first second rest =>
    have either : make first = [] ∨ make second = [] ∨ first = second := by
      by_cases none : make first = []
      · exact .inl none
      · by_cases empty : make second = []
        · exact .inr (.inl empty)
        · exact .inr (.inr (alone first (by simp) second (by simp) none empty))
    rcases either with none | none | rfl
    · simp [none]
    · simp [none]
    · rfl
  | trans former _ ih latter =>
    have before := ih alone
    have behind := latter fun first member second inside =>
      alone first (former.mem_iff.mpr member) second (former.mem_iff.mpr inside)
    exact before.trans behind

/-- Both indices are alike, and have the same references and kinds in some order. -/
structure Index.Rearranged (index other : Index) : Prop where
  alike : index.Alike other
  references : (index.references.map Located.unplaced).Perm (other.references.map Located.unplaced)
  kinds : index.kinds.Perm other.kinds

section

variable {context : Context} {index other : Index} {definition first second : Located}
variable {references more : List Located} {artifactKind id : String} {rule : ReferenceRule}

/-- Checks that agree on what does not look at positions give the same issues in some order. -/
theorem perm_flatMap_of_unplaced (make check : Located → List α)
    (same : (references.map Located.unplaced).Perm (more.map Located.unplaced))
    (blind : ∀ located, make located.unplaced = make located)
    (unseeing : ∀ located, check located.unplaced = check located)
    (agree : ∀ located, (make located).Perm (check located)) :
    (references.flatMap make).Perm (more.flatMap check) := by
  have unplace {items : List Located} {report : Located → List α}
      (unseen : ∀ located, report located.unplaced = report located) :
      items.flatMap report = (items.map Located.unplaced).flatMap report := by
    simp only [List.flatMap_map, unseen]
  rw [unplace blind, unplace unseeing]
  exact same.flatMap fun located _ => agree located

theorem withoutReference_misplacedIssue
    (found : ∀ id, id ∈ references.flatMap (·.occurrence.active) ↔
      id ∈ more.flatMap (·.occurrence.active)) :
    withoutReference (misplacedIssue definition artifactKind rule first references) =
      withoutReference (misplacedIssue definition artifactKind rule second more) := by
  have sets : KeySet.ofList (references.flatMap fun reference => reference.occurrence.active) =
      KeySet.ofList (more.flatMap fun reference => reference.occurrence.active) := by
    apply KeySet.eq_of_mem_iff
    intro id
    rw [KeySet.mem_ofList, KeySet.mem_ofList, found]
  have others : (withoutReference
        (misplacedIssue definition artifactKind rule first references)).context =
      (withoutReference (misplacedIssue definition artifactKind rule second more)).context := by
    simp only [withoutReference, misplacedIssue, Located.issue, Issue.ofEntries, KeyMap.ofList,
      List.foldl_cons, List.foldl_nil, ↓reduceIte]
    simp only [KeyMap.without_insert, List.mem_cons, true_or, or_true, sets]
  simpa [withoutReference, misplacedIssue, Located.issue, Issue.ofEntries] using others

theorem isError_withoutReference (issue : Issue) :
    (withoutReference issue).isError = issue.isError := by
  unfold withoutReference
  split <;> rfl

namespace Index.Rearranged

variable (rearranged : index.Rearranged other)

include rearranged

theorem mem_ids_iff : id ∈ index.definitions.map Located.id ↔
    id ∈ other.definitions.map Located.id := by
  have defined (index : Index) :
      id ∈ index.definitions.map Located.id ↔ (index.definitionsOf id).isEmpty = false := by
    simp [Index.definitionsOf, List.isEmpty_eq_false_iff]
  rw [defined, defined, rearranged.alike.isEmpty_definitionsOf]

theorem perm_filterMap (check : Index → Located → Option Issue)
    (blind : ∀ index reference, check index reference.unplaced = check index reference)
    (agree : ∀ reference, check index reference = check other reference) :
    (index.references.filterMap (check index)).Perm
      (other.references.filterMap (check other)) := by
  simp only [List.filterMap_eq_flatMap_toList]
  refine perm_flatMap_of_unplaced _ _ rearranged.references ?_ ?_ ?_
  · exact fun reference => congrArg Option.toList (blind index reference)
  · exact fun reference => congrArg Option.toList (blind other reference)
  · exact fun reference => .of_eq (congrArg Option.toList (agree reference))

theorem perm_primaryDefinitions :
    (index.primaryDefinitions.map Located.unplaced).Perm
      (other.primaryDefinitions.map Located.unplaced) := by
  have ids : KeySet.ofList (index.definitions.map Located.id) =
      KeySet.ofList (other.definitions.map Located.id) := by
    apply KeySet.eq_of_mem_iff
    intro id
    rw [KeySet.mem_ofList, KeySet.mem_ofList, rearranged.mem_ids_iff]
  have sorted (index : Index) : (index.primaryDefinitions.map Located.unplaced).Perm
      ((KeySet.ofList (index.definitions.map Located.id)).members.filterMap fun id =>
        (index.definitionsOf id).head?.map Located.unplaced) := by
    rw [← List.map_filterMap]
    exact (List.mergeSort_perm _ _).map _
  have same : ((KeySet.ofList (index.definitions.map Located.id)).members.filterMap fun id =>
        (index.definitionsOf id).head?.map Located.unplaced) =
      (KeySet.ofList (other.definitions.map Located.id)).members.filterMap fun id =>
        (other.definitionsOf id).head?.map Located.unplaced := by
    rw [ids]
    exact List.filterMap_congr fun id _ => rearranged.alike.head?_definitionsOf id
  exact (sorted index).trans ((List.Perm.of_eq same).trans (sorted other).symm)

theorem perm_referencesFrom (id artifactKind : String) :
    ((index.referencesFrom id artifactKind).map Located.unplaced).Perm
      ((other.referencesFrom id artifactKind).map Located.unplaced) := by
  have kept := rearranged.references.filter fun reference =>
    reference.id == id && reference.artifactKind == artifactKind
  rw [List.filter_map, List.filter_map] at kept
  exact kept

theorem coverageIssue?_eq :
    (coverageIssue? index definition artifactKind rule).map withoutReference =
      (coverageIssue? other definition artifactKind rule).map withoutReference := by
  have kinds : index.kinds.contains artifactKind = other.kinds.contains artifactKind :=
    rearranged.kinds.contains_eq
  have perm : ((index.referencesFrom definition.id artifactKind).map Located.unplaced).Perm
      ((other.referencesFrom definition.id artifactKind).map Located.unplaced) :=
    rearranged.perm_referencesFrom _ _
  unfold coverageIssue?
  rw [kinds]
  split
  · rfl
  · generalize index.referencesFrom definition.id artifactKind = references at perm ⊢
    generalize other.referencesFrom definition.id artifactKind = more at perm ⊢
    cases references with
    | nil =>
      have none : more = [] := by simpa using perm.symm.eq_nil
      rw [none]
    | cons first rest =>
      cases more with
      | nil => cases perm.eq_nil
      | cons second others =>
        have under := perm.any_eq (f := fun reference => reference.occurrence.isUnder rule.headings)
        rw [List.any_map, List.any_map] at under
        have active := perm.flatMap_right fun reference => reference.occurrence.active
        rw [List.flatMap_map, List.flatMap_map] at active
        have same : (first :: rest).any (fun reference =>
              reference.occurrence.isUnder rule.headings) =
            (second :: others).any fun reference => reference.occurrence.isUnder rule.headings :=
          under
        simp only [same]
        split
        · rfl
        · exact congrArg some (withoutReference_misplacedIssue fun id => active.mem_iff)

theorem perm_ruleCoverageIssues :
    ((ruleCoverageIssues index definition artifactKind rule).map withoutReference).Perm
      ((ruleCoverageIssues other definition artifactKind rule).map withoutReference) := by
  unfold ruleCoverageIssues
  cases rule.coverage with
  | required =>
    simp only
    split
    · rw [← Option.toList_map, ← Option.toList_map, rearranged.coverageIssue?_eq]
    · rfl
  | prohibited =>
    have perm := (rearranged.perm_referencesFrom definition.id artifactKind).map fun reference =>
      prohibitedIssue definition reference artifactKind
    rw [List.map_map, List.map_map] at perm
    exact perm.map withoutReference
  | optional => rfl

theorem perm_coverageIssues :
    ((coverageIssues context index definition).map withoutReference).Perm
      ((coverageIssues context other definition).map withoutReference) := by
  unfold coverageIssues
  cases ruleOf? context definition with
  | none => rfl
  | some rule =>
    simp only [List.map_flatMap]
    exact List.Perm.flatMap_left _ fun entry _ => rearranged.perm_ruleCoverageIssues

theorem perm_codeIssues : (codeIssues context index.primaryDefinitions).Perm
    (codeIssues context other.primaryDefinitions) := by
  unfold codeIssues
  cases context.codeReferences with
  | none => rfl
  | some known =>
    have perm := rearranged.perm_primaryDefinitions.filterMap (codeIssue? context known)
    rw [List.filterMap_map, List.filterMap_map] at perm
    exact perm

end Index.Rearranged

/-- The checks across documents give the same issues in some order. -/
theorem perm_checkAcross {documents others : List DocumentScan}
    (rearranged : (Index.ofDocuments documents).Rearranged (Index.ofDocuments others)) :
    ((checkAcross context documents).map withoutReference).Perm
      ((checkAcross context others).map withoutReference) := by
  have alike := rearranged.alike
  have undefined := rearranged.perm_filterMap (undefinedIssue? context) (fun _ _ => rfl)
    fun _ => alike.undefinedIssue?_eq
  have early := rearranged.perm_filterMap earlyIssue? (fun _ _ => rfl) fun _ => alike.earlyIssue?_eq
  have late := rearranged.perm_filterMap lateIssue? (fun _ _ => rfl) fun _ => alike.lateIssue?_eq
  have loose := rearranged.perm_filterMap (looseTaskIssue? context) (fun _ _ => rfl)
    fun _ => alike.looseTaskIssue?_eq
  have coverage := perm_flatMap_of_unplaced
    (fun definition => (coverageIssues context _ definition).map withoutReference)
    (fun definition => (coverageIssues context _ definition).map withoutReference)
    rearranged.perm_primaryDefinitions (fun _ => rfl) (fun _ => rfl)
    fun _ => rearranged.perm_coverageIssues
  have policies := perm_flatMap_of_unplaced (referencePolicyIssues context _)
    (referencePolicyIssues context _) rearranged.references (fun _ => rfl) (fun _ => rfl)
    fun _ => .of_eq alike.referencePolicyIssues_eq
  have elsewhere := perm_flatMap_of_unplaced (elsewhereIssues _) (elsewhereIssues _)
    rearranged.perm_primaryDefinitions (fun _ => rfl) (fun _ => rfl)
    fun _ => .of_eq alike.elsewhereIssues_eq
  rw [← List.map_flatMap, ← List.map_flatMap] at coverage
  simp only [checkAcross, List.map_append]
  exact (((((((undefined.map _).append (early.map _)).append (late.map _)).append
    (loose.map _)).append coverage).append (policies.map _)).append (elsewhere.map _)).append
    (rearranged.perm_codeIssues.map _)

def DocumentScan.occurrencesHere (document : DocumentScan) : List Located :=
  document.occurrences.map fun occurrence =>
    ⟨0, document.path, document.artifactKind, occurrence⟩

theorem map_unplaced_locate (documents : List DocumentScan) :
    (locate documents).map Located.unplaced =
      documents.flatMap DocumentScan.occurrencesHere := by
  have paths : documents.zipIdx.map Prod.fst = documents := List.zipIdx_map_fst 0 documents
  conv_rhs => rw [← paths]
  rw [List.flatMap_map, locate, List.map_flatMap]
  refine List.flatMap_congr fun pair _ => ?_
  rw [List.map_map]
  rfl

theorem map_unplaced_definitionsOf (documents : List DocumentScan) (id : String) :
    ((Index.ofDocuments documents).definitionsOf id).map Located.unplaced =
      documents.flatMap fun document => document.occurrencesHere.filter fun located =>
        located.id == id && located.isDefinition := by
  rw [← List.filter_flatMap, ← map_unplaced_locate, List.filter_map]
  simp only [Index.definitionsOf, Index.ofDocuments, List.filter_filter]
  rfl

/-- Documents that define no identifier twice have the same index in every order, but for the
positions. -/
theorem rearranged_of_perm {documents others : List DocumentScan} (perm : documents.Perm others)
    (apart : ∀ first ∈ documents, ∀ second ∈ documents, ∀ id,
      (∃ occurrence ∈ first.occurrences, occurrence.isDefinition = true ∧ occurrence.id = id) →
      (∃ occurrence ∈ second.occurrences, occurrence.isDefinition = true ∧ occurrence.id = id) →
      first = second) :
    (Index.ofDocuments documents).Rearranged (Index.ofDocuments others) := by
  refine ⟨?alike, ?references, ?kinds⟩
  case alike =>
    intro id
    have defining {document : DocumentScan} (some : document.occurrencesHere.filter
        (fun located => located.id == id && located.isDefinition) ≠ []) :
        ∃ occurrence ∈ document.occurrences,
          occurrence.isDefinition = true ∧ occurrence.id = id := by
      obtain ⟨located, member⟩ := List.exists_mem_of_ne_nil _ some
      obtain ⟨inside, own⟩ := List.mem_filter.mp member
      obtain ⟨occurrence, written, rfl⟩ := List.mem_map.mp inside
      rw [Bool.and_eq_true, beq_iff_eq] at own
      exact ⟨occurrence, written, own.2, own.1⟩
    rw [map_unplaced_definitionsOf, map_unplaced_definitionsOf]
    apply flatMap_eq_of_perm perm
    intro first member second inside some another
    exact apart first member second inside id (defining some) (defining another)
  case references =>
    have shape (documents : List DocumentScan) :
        (Index.ofDocuments documents).references.map Located.unplaced =
          (documents.flatMap DocumentScan.occurrencesHere).filter (!·.isDefinition) := by
      rw [← map_unplaced_locate, List.filter_map]
      rfl
    rw [shape, shape]
    exact (perm.flatMap_right _).filter _
  case kinds => exact perm.map _

/-- If no identifier is defined in two of the documents, these have the same issues in every
order. -/
theorem perm_documentIssues {documents others : List Document}
    (apart : DefinedApart context documents) (perm : documents.Perm others) :
    ((documentIssues context documents).map withoutReference).Perm
      ((documentIssues context others).map withoutReference) := by
  have outcomes := perm.map (validateDocument context)
  have scans := outcomes.filterMap (·.scan)
  have read {scan : DocumentScan}
      (member : scan ∈ (documents.map (validateDocument context)).filterMap (·.scan)) :
      ∃ document ∈ documents, (validateDocument context document).scan = some scan := by
    obtain ⟨outcome, made, scanned⟩ := List.mem_filterMap.mp member
    obtain ⟨document, inside, rfl⟩ := List.mem_map.mp made
    exact ⟨document, inside, scanned⟩
  have rearranged := rearranged_of_perm scans fun first member second inside id here there => by
    obtain ⟨document, given, scanned⟩ := read member
    obtain ⟨another, present, read⟩ := read inside
    obtain rfl := apart document given another present id ⟨first, scanned, here⟩
      ⟨second, read, there⟩
    exact Option.some.inj (scanned.symm.trans read)
  simp only [documentIssues, List.map_append]
  exact ((outcomes.flatMap_right _).map _).append (perm_checkAcross rearranged)

end

/-- If no identifier is defined in two different documents, the report has the same status and the
same issues in every order of the documents. -/
theorem validateDocuments_perm (context : Context) (documents others : List Document)
    (apart : DefinedApart context documents) (perm : documents.Perm others) :
    (validateDocuments context documents).status = (validateDocuments context others).status ∧
      ((validateDocuments context documents).errors.map withoutReference).Perm
        ((validateDocuments context others).errors.map withoutReference) ∧
      ((validateDocuments context documents).warnings.map withoutReference).Perm
        ((validateDocuments context others).warnings.map withoutReference) := by
  have issues := perm_documentIssues apart perm
  have errors := issues.filter (·.isError)
  have warnings := issues.filter fun issue => !issue.isError
  simp only [List.filter_map, Function.comp_def, isError_withoutReference] at errors warnings
  refine ⟨?status, errors, warnings⟩
  case status =>
    have passes : (validateDocuments context documents).errors.isEmpty =
        (validateDocuments context others).errors.isEmpty := by
      have same := errors.isEmpty_eq
      rw [List.isEmpty_map, List.isEmpty_map] at same
      exact same
    rw [Report.status, Report.status, passes]

/-- A document of requirements that defines one and refers to another. -/
def requirementDocument (path defined referenced : String) : Document :=
  ⟨path, "PRD", "- [x] **ID**: `" ++ defined ++ "`\n\nAs `" ++ referenced ++ "` wants.\n"⟩

/-- Two documents whose requirements refer to each other. -/
theorem validateDocuments_swap :
    let login := requirementDocument "docs/login.md" "cpt-app-fr-login" "cpt-app-fr-logout"
    let logout := requirementDocument "docs/logout.md" "cpt-app-fr-logout" "cpt-app-fr-login"
    DefinedApart untracedContext [login, logout] ∧
      (validateDocuments untracedContext [login, logout]).status =
        (validateDocuments untracedContext [logout, login]).status ∧
      ((validateDocuments untracedContext [login, logout]).errors.map withoutReference).Perm
        ((validateDocuments untracedContext [logout, login]).errors.map withoutReference) ∧
      ((validateDocuments untracedContext [login, logout]).warnings.map withoutReference).Perm
        ((validateDocuments untracedContext [logout, login]).warnings.map withoutReference) := by
  intro login logout
  let defined (document : Document) : List String :=
    ((validateDocument untracedContext document).scan.map fun scan =>
      (scan.occurrences.filter (·.isDefinition)).map (·.id)).getD []
  have mem_defined {document : Document} {id : String}
      (defines : DefinesIn untracedContext document id) : id ∈ defined document := by
    obtain ⟨scan, read, occurrence, member, role, rfl⟩ := defines
    simp only [defined, read, Option.map_some, Option.getD_some]
    exact List.mem_map.mpr ⟨occurrence, List.mem_filter.mpr ⟨member, role⟩, rfl⟩
  have first : defined login = ["cpt-app-fr-login"] := by decide +kernel
  have second : defined logout = ["cpt-app-fr-logout"] := by decide +kernel
  have distinct (id : String) (here : DefinesIn untracedContext login id)
      (there : DefinesIn untracedContext logout id) : False := by
    have own := List.mem_singleton.mp (first ▸ mem_defined here)
    have other := List.mem_singleton.mp (second ▸ mem_defined there)
    exact absurd (own.symm.trans other) (by decide)
  have apart : DefinedApart untracedContext [login, logout] := by
    intro one member another inside id here there
    simp only [List.mem_cons, List.not_mem_nil, or_false] at member inside
    rcases member with rfl | rfl <;> rcases inside with rfl | rfl
    · rfl
    · exact (distinct id here there).elim
    · exact (distinct id there here).elim
    · rfl
  exact ⟨apart, validateDocuments_perm untracedContext _ _ apart (.swap logout login [])⟩

end DocContract.Validation
