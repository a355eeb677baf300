import DocContract.Proofs.Validation.Index

/-!
Which check an issue across the documents comes from: each has codes of its own.
-/

namespace DocContract.Validation

section

variable {context : Context} {index : Index} {reference definition other : Located}
variable {issue : Issue}

theorem code_of_mem_undefinedIssue?
    (member : issue ∈ undefinedIssue? context index reference) : issue.code = .refNoDefinition := by
  unfold undefinedIssue? at member
  split at member
  · obtain rfl := Option.some.inj member
    rfl
  · cases member

theorem code_of_mem_earlyIssue?
    (member : issue ∈ earlyIssue? index reference) : issue.code = .refDoneDefNotDone := by
  unfold earlyIssue? at member
  split at member
  · obtain ⟨task, _, rfl⟩ := Option.map_eq_some_iff.mp member
    rfl
  · cases member

theorem code_of_mem_lateIssue?
    (member : issue ∈ lateIssue? index reference) : issue.code = .defDoneRefNotDone := by
  unfold lateIssue? at member
  simp only at member
  split at member
  · obtain ⟨task, _, rfl⟩ := Option.map_eq_some_iff.mp member
    rfl
  · cases member

theorem code_of_mem_looseTaskIssue?
    (member : issue ∈ looseTaskIssue? context index reference) :
    issue.code = .refTaskDefNoTask := by
  unfold looseTaskIssue? at member
  simp only at member
  split at member
  · obtain ⟨first, _, reported⟩ := Option.bind_eq_some_iff.mp member
    split at reported
    · cases reported
    · cases reported
    · obtain rfl := Option.some.inj reported
      rfl
  · cases member

theorem code_of_mem_referencePolicyIssues
    (member : issue ∈ referencePolicyIssues context index reference) :
    issue.code ∈ [.refTaskRequired, .refTaskProhibited, .refPriorityRequired,
      .refPriorityProhibited] := by
  unfold referencePolicyIssues at member
  split at member
  · cases member
  · next rule _ =>
    rcases List.mem_append.mp member with task | priority
    · obtain ⟨broken, _, rfl⟩ := Option.map_eq_some_iff.mp (Option.mem_toList.mp task)
      cases broken <;>
        simp [referenceTaskIssue, referencePolicyIssue, Located.issue, Issue.ofEntries]
    · obtain ⟨broken, _, rfl⟩ := Option.map_eq_some_iff.mp (Option.mem_toList.mp priority)
      cases broken <;>
        simp [referencePriorityIssue, referencePolicyIssue, Located.issue, Issue.ofEntries]

/-- What the coverage of a definition by documents of a kind can be reported for. -/
theorem cases_of_mem_ruleCoverageIssues {artifactKind : String} {rule : ReferenceRule}
    (member : issue ∈ ruleCoverageIssues index definition artifactKind rule) :
    issue = noTargetIssue definition artifactKind ∨ issue = uncoveredIssue definition artifactKind ∨
      (∃ first more, index.referencesFrom definition.id artifactKind = first :: more ∧
        issue = misplacedIssue definition artifactKind rule first (first :: more)) ∨
      ∃ reference ∈ index.referencesFrom definition.id artifactKind,
        issue = prohibitedIssue definition reference artifactKind := by
  unfold ruleCoverageIssues at member
  split at member
  · split at member
    · have reported := Option.mem_toList.mp member
      unfold coverageIssue? at reported
      split at reported
      · exact .inl (Option.some.inj reported).symm
      · split at reported
        · exact .inr (.inl (Option.some.inj reported).symm)
        · next first more referred =>
          split at reported
          · cases reported
          · exact .inr (.inr (.inl ⟨first, more, referred, (Option.some.inj reported).symm⟩))
    · cases member
  · obtain ⟨reference, referred, rfl⟩ := List.mem_map.mp member
    exact .inr (.inr (.inr ⟨reference, referred, rfl⟩))
  · cases member

theorem cases_of_mem_coverageIssues (member : issue ∈ coverageIssues context index definition) :
    ∃ artifactKind rule, issue ∈ ruleCoverageIssues index definition artifactKind rule := by
  unfold coverageIssues at member
  split at member
  · cases member
  · obtain ⟨⟨artifactKind, rule⟩, _, inside⟩ := List.mem_flatMap.mp member
    exact ⟨artifactKind, rule, inside⟩

theorem code_of_mem_coverageIssues (member : issue ∈ coverageIssues context index definition) :
    issue.code ∈ [.refTargetNotInScope, .refMissingFromKind, .refWrongHeadings,
      .refFromProhibitedKind] := by
  obtain ⟨artifactKind, rule, inside⟩ := cases_of_mem_coverageIssues member
  rcases cases_of_mem_ruleCoverageIssues inside with rfl | rfl | ⟨_, _, _, rfl⟩ | ⟨_, _, rfl⟩
  all_goals
    simp [noTargetIssue, uncoveredIssue, misplacedIssue, prohibitedIssue, Located.issue,
      Issue.ofEntries]

/-- That the documents of a kind do not refer to an identifier is reported in one way only. -/
theorem eq_uncoveredIssue_of_code {artifactKind : String} {rule : ReferenceRule}
    (member : issue ∈ ruleCoverageIssues index definition artifactKind rule)
    (code : issue.code = .refMissingFromKind) : issue = uncoveredIssue definition artifactKind := by
  rcases cases_of_mem_ruleCoverageIssues member with rfl | rfl | ⟨_, _, _, rfl⟩ | ⟨_, _, rfl⟩
  · cases code
  · rfl
  · cases code
  · cases code

theorem code_of_mem_elsewhereIssues (member : issue ∈ elsewhereIssues index definition) :
    issue.code = .defDuplicateAcrossDocuments := by
  obtain ⟨other, _, rfl⟩ := List.mem_map.mp member
  rfl

theorem code_of_mem_codeIssues {definitions : List Located}
    (member : issue ∈ codeIssues context definitions) : issue.code = .codeRefMissing := by
  unfold codeIssues at member
  split at member
  · cases member
  · obtain ⟨definition, _, reported⟩ := List.mem_filterMap.mp member
    unfold codeIssue? at reported
    split at reported
    · obtain rfl := Option.some.inj reported
      rfl
    · cases reported

end

/-- Only the check for undefined identifiers and that of the coverage give these codes. -/
theorem checkAcross_segments (context : Context) (documents : List DocumentScan) :
    ∃ before behind, checkAcross context documents =
        (Index.ofDocuments documents).references.filterMap
          (undefinedIssue? context (Index.ofDocuments documents)) ++ before ++
        (Index.ofDocuments documents).primaryDefinitions.flatMap
          (coverageIssues context (Index.ofDocuments documents)) ++ behind ∧
      ∀ issue ∈ before ++ behind, issue.code ∉ [.refNoDefinition, .refTargetNotInScope,
        .refMissingFromKind, .refWrongHeadings, .refFromProhibitedKind] := by
  rw [checkAcross]
  generalize Index.ofDocuments documents = index
  refine ⟨index.references.filterMap (earlyIssue? index) ++
      index.references.filterMap (lateIssue? index) ++
      index.references.filterMap (looseTaskIssue? context index),
    index.references.flatMap (referencePolicyIssues context index) ++
      index.primaryDefinitions.flatMap (elsewhereIssues index) ++
      codeIssues context index.primaryDefinitions, by simp only [List.append_assoc], ?_⟩
  intro issue member
  simp only [List.mem_append, or_assoc] at member
  rcases member with early | late | loose | policy | elsewhere | code
  · obtain ⟨reference, _, reported⟩ := List.mem_filterMap.mp early
    simp [code_of_mem_earlyIssue? reported]
  · obtain ⟨reference, _, reported⟩ := List.mem_filterMap.mp late
    simp [code_of_mem_lateIssue? reported]
  · obtain ⟨reference, _, reported⟩ := List.mem_filterMap.mp loose
    simp [code_of_mem_looseTaskIssue? reported]
  · obtain ⟨reference, _, reported⟩ := List.mem_flatMap.mp policy
    have code := code_of_mem_referencePolicyIssues reported
    simp only [List.mem_cons, List.not_mem_nil, or_false] at code
    rcases code with code | code | code | code <;> simp [code]
  · obtain ⟨definition, _, reported⟩ := List.mem_flatMap.mp elsewhere
    simp [code_of_mem_elsewhereIssues reported]
  · simp [code_of_mem_codeIssues code]

end DocContract.Validation
