import DocContract.Identifier.Check

namespace DocContract.Identifier

open DocContract.Outline

variable {path : String} {contract : Contract} {rule : IdRule} {definition task : Occurrence}
variable {seen definitions tasks occurrences : List Occurrence} {scopes : Scopes} {issue : Issue}

theorem code_of_mem_ruleIssues (member : issue ∈ ruleIssues path rule definition) :
    issue.code ∈ [.idTaskRequired, .idTaskProhibited, .idPriorityRequired, .idPriorityProhibited,
      .idWrongHeading] := by
  unfold ruleIssues at member
  rw [List.mem_append, List.mem_append, Option.mem_toList, Option.mem_toList] at member
  rcases member with (tracked | rated) | placed
  · obtain ⟨policy, _, rfl⟩ := Option.map_eq_some_iff.mp tracked
    cases policy <;> simp [taskIssue, policyIssue, Issue.ofEntries]
  · obtain ⟨policy, _, rfl⟩ := Option.map_eq_some_iff.mp rated
    cases policy <;> simp [priorityIssue, policyIssue, Issue.ofEntries]
  · split at placed
    · cases placed
    · obtain rfl := List.mem_singleton.mp placed
      simp [placeIssue, Issue.ofEntries]

theorem code_of_mem_contractIssues (member : issue ∈ contractIssues path contract definition) :
    issue.code ∈ [.idKindNotAllowed, .idTaskRequired, .idTaskProhibited, .idPriorityRequired,
      .idPriorityProhibited, .idWrongHeading] := by
  unfold contractIssues at member
  split at member
  · obtain rfl := List.mem_singleton.mp member
    simp [kindIssue, Issue.ofEntries]
  · exact List.mem_cons_of_mem _ (code_of_mem_ruleIssues member)

theorem code_of_mem_definitionIssues
    (member : issue ∈ definitionIssues path contract seen definitions) :
    issue.code ∈ [.idDuplicateDefinition, .idKindNotAllowed, .idTaskRequired, .idTaskProhibited,
      .idPriorityRequired, .idPriorityProhibited, .idWrongHeading] := by
  induction definitions generalizing seen with
  | nil => cases member
  | cons definition rest ih =>
    rw [definitionIssues, List.mem_append, List.mem_append, Option.mem_toList] at member
    rcases member with (again | contracted) | later
    · obtain ⟨earlier, _, rfl⟩ := Option.map_eq_some_iff.mp again
      simp [duplicateIssue, Issue.ofEntries]
    · exact List.mem_cons_of_mem _ (code_of_mem_contractIssues contracted)
    · exact ih later

theorem code_of_mem_completionIssue? (member : issue ∈ completionIssue? path scopes tasks task) :
    issue.code ∈ [.parentUncheckedAllDone, .parentCheckedNestedUnchecked] := by
  unfold completionIssue? at member
  simp only at member
  split at member
  · cases member
  · split at member
    · obtain rfl := Option.some.inj member
      simp [allDoneIssue, Issue.ofEntries]
    · split at member
      · obtain rfl := Option.some.inj member
        simp [openInsideIssue, Issue.ofEntries]
      · cases member

/-- What the identifiers of a document alone can be reported for. -/
theorem code_of_mem_check (member : issue ∈ check path contract occurrences scopes) :
    issue.code ∈ [.idDuplicateDefinition, .idKindNotAllowed, .idTaskRequired, .idTaskProhibited,
      .idPriorityRequired, .idPriorityProhibited, .idWrongHeading, .parentUncheckedAllDone,
      .parentCheckedNestedUnchecked, .requiredIdKindMissing] := by
  rw [check, List.mem_append, List.mem_append] at member
  rcases member with (defined | completed) | required
  · have code := code_of_mem_definitionIssues defined
    exact List.mem_append_left [.parentUncheckedAllDone, .parentCheckedNestedUnchecked,
      .requiredIdKindMissing] code
  · obtain ⟨task, _, reported⟩ := List.mem_filterMap.mp completed
    have code := code_of_mem_completionIssue? reported
    simp only [List.mem_cons, List.not_mem_nil, or_false] at code
    rcases code with code | code <;> simp [code]
  · obtain ⟨rule, _, rfl⟩ := List.mem_map.mp required
    simp [requiredKindIssue, Issue.ofEntries]

end DocContract.Identifier
