import DocContract.Proofs.Sorted.Lookup
import DocContract.Validation.Cross

namespace DocContract.Validation

open DocContract.Sorted

def Refers (documents : List DocumentScan) (reference : Located) : Prop :=
  reference ∈ locate documents ∧ reference.isDefinition = false

def Defines (documents : List DocumentScan) (id : String) (definition : Located) : Prop :=
  definition ∈ locate documents ∧ definition.isDefinition = true ∧ definition.id = id

def primary? (documents : List DocumentScan) (id : String) : Option Located :=
  (locate documents).find? fun located => located.isDefinition && located.id == id

section

variable {documents : List DocumentScan} {definition reference task : Located}
variable {id artifactKind : String}

theorem document_of_mem_locate {located : Located} (member : located ∈ locate documents) :
    ∃ document ∈ documents, located.occurrence ∈ document.occurrences := by
  obtain ⟨⟨document, order⟩, placed, inside⟩ := List.mem_flatMap.mp member
  obtain ⟨occurrence, written, rfl⟩ := List.mem_map.mp inside
  exact ⟨document, List.fst_mem_of_mem_zipIdx placed, written⟩

theorem primary?_eq_some (found : primary? documents id = some definition) :
    Defines documents id definition := by
  have named := List.find?_some found
  simp only [Bool.and_eq_true, beq_iff_eq] at named
  exact ⟨List.mem_of_find?_eq_some found, named⟩

theorem mem_references_iff :
    reference ∈ (Index.ofDocuments documents).references ↔ Refers documents reference := by
  simp [Index.ofDocuments, Refers]

theorem mem_definitionsOf_iff :
    definition ∈ (Index.ofDocuments documents).definitionsOf id ↔
      Defines documents id definition := by
  simp only [Index.ofDocuments, Index.definitionsOf, Defines, List.mem_filter, beq_iff_eq,
    and_assoc]

theorem mem_tasksOf_iff :
    task ∈ (Index.ofDocuments documents).tasksOf id ↔
      Defines documents id task ∧ task.occurrence.hasTask = true := by
  simp [Index.tasksOf, mem_definitionsOf_iff]

theorem definitionsOf_eq_nil_iff :
    (Index.ofDocuments documents).definitionsOf id = [] ↔
      ∀ definition, ¬ Defines documents id definition := by
  simp only [List.eq_nil_iff_forall_not_mem, mem_definitionsOf_iff]

theorem head?_definitionsOf :
    ((Index.ofDocuments documents).definitionsOf id).head? = primary? documents id := by
  simp only [Index.definitionsOf, Index.ofDocuments, List.filter_filter, List.head?_filter,
    primary?]
  congr 1
  funext located
  exact Bool.and_comm _ _

theorem mem_referencesFrom_iff :
    reference ∈ (Index.ofDocuments documents).referencesFrom id artifactKind ↔
      Refers documents reference ∧ reference.id = id ∧ reference.artifactKind = artifactKind := by
  simp [Index.referencesFrom, mem_references_iff]

theorem mem_kinds_iff :
    artifactKind ∈ (Index.ofDocuments documents).kinds ↔
      ∃ document ∈ documents, document.artifactKind = artifactKind := by
  simp [Index.ofDocuments]

theorem mem_primaryDefinitions_iff :
    definition ∈ (Index.ofDocuments documents).primaryDefinitions ↔
      primary? documents definition.id = some definition := by
  simp only [Index.primaryDefinitions, List.mem_mergeSort, List.mem_filterMap, KeySet.mem_ofList,
    head?_definitionsOf]
  constructor
  · rintro ⟨id, _, found⟩
    rwa [(primary?_eq_some found).2.2]
  · intro found
    obtain ⟨member, own, _⟩ := primary?_eq_some found
    refine ⟨definition.id, List.mem_map.mpr ⟨definition, ?_, rfl⟩, found⟩
    simp [Index.ofDocuments, member, own]

end

end DocContract.Validation
