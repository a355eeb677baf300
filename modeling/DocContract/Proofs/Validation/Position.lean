import DocContract.Proofs.Validation.Index

/-!
What the checks across documents make of the positions of the documents: these decide which
definition of an identifier is the first, and are of no account beyond that.
-/

namespace DocContract.Validation

def Located.unplaced (located : Located) : Located :=
  { located with order := 0 }

/-- Both indices have the same definitions of each identifier, but for the positions of the
documents. -/
def Index.Alike (index other : Index) : Prop :=
  ∀ id, (index.definitionsOf id).map Located.unplaced =
    (other.definitionsOf id).map Located.unplaced

section

variable {context : Context} {index other : Index} {reference : Located} {id : String}

/-- What does not look at positions makes the same of lists that differ in these alone. -/
theorem eq_of_unplaced {first second : List Located}
    (same : first.map Located.unplaced = second.map Located.unplaced) (make : List Located → α)
    (blind : ∀ located, make (located.map Located.unplaced) = make located) :
    make first = make second := by
  rw [← blind first, same, blind]

theorem bind_eq_of_unplaced {first second : Option Located}
    (same : first.map Located.unplaced = second.map Located.unplaced) (make : Located → Option α)
    (blind : ∀ located, make located.unplaced = make located) :
    first.bind make = second.bind make := by
  have composed : make ∘ Located.unplaced = make := funext blind
  have made := congrArg (Option.bind · make) same
  simpa only [Option.bind_map, composed] using made

theorem map_eq_of_unplaced {first second : Option Located}
    (same : first.map Located.unplaced = second.map Located.unplaced) (make : Located → α)
    (blind : ∀ located, make located.unplaced = make located) :
    first.map make = second.map make := by
  simpa only [Option.map_eq_bind] using
    bind_eq_of_unplaced same (some ∘ make) fun located => congrArg some (blind located)

theorem firstInDocuments_unplaced (seen : List String) (definitions : List Located) :
    firstInDocuments seen (definitions.map Located.unplaced) =
      (firstInDocuments seen definitions).map Located.unplaced := by
  induction definitions generalizing seen with
  | nil => rfl
  | cons definition rest ih =>
    have path : definition.unplaced.path = definition.path := rfl
    rw [List.map_cons, firstInDocuments, firstInDocuments, path]
    split
    · exact ih seen
    · rw [List.map_cons, ih]

namespace Index.Alike

variable (alike : index.Alike other)

include alike

theorem isEmpty_definitionsOf :
    (index.definitionsOf id).isEmpty = (other.definitionsOf id).isEmpty :=
  eq_of_unplaced (alike id) List.isEmpty fun definitions => by simp

theorem head?_definitionsOf (id : String) :
    (index.definitionsOf id).head?.map Located.unplaced =
      (other.definitionsOf id).head?.map Located.unplaced := by
  simpa only [List.head?_map] using congrArg List.head? (alike id)

theorem tasksOf (id : String) :
    (index.tasksOf id).map Located.unplaced = (other.tasksOf id).map Located.unplaced := by
  have tracked := congrArg (List.filter fun located => located.occurrence.hasTask) (alike id)
  rw [List.filter_map, List.filter_map] at tracked
  exact tracked

theorem undefinedIssue?_eq :
    undefinedIssue? context index reference = undefinedIssue? context other reference := by
  unfold undefinedIssue?
  rw [alike.isEmpty_definitionsOf]

theorem earlyIssue?_eq : earlyIssue? index reference = earlyIssue? other reference := by
  have blind : (fun task : Located => !task.occurrence.checked) ∘ Located.unplaced =
      fun task => !task.occurrence.checked := rfl
  have pending := congrArg (List.find? fun task => !task.occurrence.checked)
    (alike.tasksOf reference.id)
  rw [List.find?_map, List.find?_map, blind] at pending
  unfold earlyIssue?
  rw [map_eq_of_unplaced pending _ fun _ => rfl]

theorem lateIssue?_eq : lateIssue? index reference = lateIssue? other reference := by
  have done := eq_of_unplaced (alike.tasksOf reference.id)
    (fun tasks => tasks.all (·.occurrence.checked)) fun tasks => List.all_map
  have task := congrArg List.head? (alike.tasksOf reference.id)
  rw [List.head?_map, List.head?_map] at task
  unfold lateIssue?
  simp only [done]
  rw [map_eq_of_unplaced task _ fun _ => rfl]

theorem looseTaskIssue?_eq :
    looseTaskIssue? context index reference = looseTaskIssue? context other reference := by
  have tracked := eq_of_unplaced (alike reference.id)
    (fun definitions => definitions.any (·.occurrence.hasTask)) fun definitions => List.any_map
  unfold looseTaskIssue?
  simp only [tracked]
  rw [bind_eq_of_unplaced (alike.head?_definitionsOf _) _ fun _ => rfl]

theorem referencePolicyIssues_eq :
    referencePolicyIssues context index reference =
      referencePolicyIssues context other reference := by
  unfold referencePolicyIssues
  rw [bind_eq_of_unplaced (alike.head?_definitionsOf _) _ fun _ => rfl]

theorem elsewhereIssues_eq : elsewhereIssues index reference = elsewhereIssues other reference := by
  refine eq_of_unplaced (alike reference.id) (fun definitions =>
    (firstInDocuments [reference.path] (definitions.drop 1)).map (elsewhereIssue reference)) ?_
  intro definitions
  simp only [← List.map_drop, firstInDocuments_unplaced, List.map_map]
  rfl

end Index.Alike

end

end DocContract.Validation
