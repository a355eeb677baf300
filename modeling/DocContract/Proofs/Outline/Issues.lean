import DocContract.Outline.Check
import DocContract.Proofs.Outline.Run

namespace DocContract.Outline

def issuesAt (path : String) (contract : Contract) (headings : List Heading) (slot : Nat) :
    List Issue :=
  ((contract.headings.zip (placements contract headings))[slot]?.map fun (rule, placement) =>
    ruleIssues path headings rule placement).getD []

/-- How many of the issues have the code. -/
def countCode (code : IssueCode) (issues : List Issue) : Nat :=
  issues.countP fun issue => issue.code == code

section

variable {path : String} {contract : Contract} {headings : List Heading} {rule : HeadingRule}
variable {placement : Placement} {slot : Nat} {code : IssueCode} {issue : Issue}

private theorem flatMap_eq_range {items : List α} {results : α → List β} :
    items.flatMap results =
      (List.range items.length).flatMap fun index => (items[index]?.map results).getD [] := by
  induction items with
  | nil => rfl
  | cons item items ih =>
    rw [List.flatMap_cons, ih, List.length_cons, List.range_succ_eq_map, List.flatMap_cons,
      List.flatMap_map]
    rfl

theorem check_issues :
    (check path contract headings).issues =
      (List.range contract.headings.length).flatMap (issuesAt path contract headings) ++
        sequenceIssues path headings := by
  have size : (contract.headings.zip (placements contract headings)).length =
      contract.headings.length := by
    simp [placements, length_place]
  rw [check, flatMap_eq_range, size]
  rfl

theorem countCode_eq_zero_iff {issues : List Issue} :
    countCode code issues = 0 ↔ ∀ issue ∈ issues, issue.code ≠ code := by
  simp [countCode, List.countP_eq_zero]

theorem code_of_mem_sequenceIssues (member : issue ∈ sequenceIssues path headings) :
    issue.code = .headingNumberSequence := by
  obtain ⟨gap, _, rfl⟩ := List.mem_map.mp member
  rfl

variable (path rule) in
theorem code_numberingIssue (heading : Heading) (broken : Policy) :
    (numberingIssue path rule heading broken).code = .headingNumberingRequired ∨
      (numberingIssue path rule heading broken).code = .headingNumberingProhibited := by
  cases broken
  · exact .inl rfl
  · exact .inr rfl
  · exact .inr rfl

/-- The issues with headings that were found are about their count and their numbers. -/
theorem countCode_ruleIssues_found {first : Nat} {more : List Nat}
    (required : code ≠ .headingNumberingRequired)
    (prohibited : code ≠ .headingNumberingProhibited) :
    countCode code (ruleIssues path headings rule (.found first more)) =
      countCode code (countIssue? path rule headings first more).toList := by
  unfold ruleIssues countCode
  rw [List.countP_append]
  refine Nat.add_eq_left.mpr (countCode_eq_zero_iff.mpr ?_)
  intro issue member same
  obtain ⟨heading, _, broken⟩ := List.mem_filterMap.mp member
  obtain ⟨policy, _, rfl⟩ := Option.map_eq_some_iff.mp broken
  rcases code_numberingIssue path rule heading policy with own | own
  · exact required (same.symm.trans own)
  · exact prohibited (same.symm.trans own)

theorem issuesAt_eq (ruled : contract.headings[slot]? = some rule)
    (placed : (placements contract headings)[slot]? = some placement) :
    issuesAt path contract headings slot = ruleIssues path headings rule placement := by
  have both : (contract.headings.zip (placements contract headings))[slot]? =
      some (rule, placement) :=
    List.getElem?_zip_eq_some.mpr ⟨ruled, placed⟩
  simp [issuesAt, both]

/-- A document has issues of a code that is not about numbers only where a rule causes one. -/
theorem countCode_check_eq_zero (other : code ≠ .headingNumberSequence)
    (none : ∀ slot rule, contract.headings[slot]? = some rule →
      countCode code (issuesAt path contract headings slot) = 0) :
    countCode code (check path contract headings).issues = 0 := by
  rw [check_issues, countCode_eq_zero_iff]
  intro issue member
  rcases List.mem_append.mp member with caused | numbered
  · obtain ⟨slot, inside, issued⟩ := List.mem_flatMap.mp caused
    have ruled := List.getElem?_eq_getElem (List.mem_range.mp inside)
    exact countCode_eq_zero_iff.mp (none slot _ ruled) issue issued
  · rw [code_of_mem_sequenceIssues numbered]
    exact other.symm

theorem code_of_mem_countIssue? {first : Nat} {more : List Nat}
    (member : issue ∈ countIssue? path rule headings first more) :
    issue.code ∈ [.headingProhibitsMultiple, .headingRequiresMultiple] := by
  unfold countIssue? at member
  split at member
  · obtain rfl := Option.some.inj member
    simp [repeatedIssue, Issue.ofEntries]
  · obtain rfl := Option.some.inj member
    simp [singleIssue, Issue.ofEntries]
  · cases member

/-- What a rule can be reported for. -/
theorem code_of_mem_ruleIssues (member : issue ∈ ruleIssues path headings rule placement) :
    issue.code ∈ [.headingMissing, .headingProhibitsMultiple, .headingRequiresMultiple,
      .headingNumberingRequired, .headingNumberingProhibited] := by
  cases placement with
  | skipped => cases member
  | missing parent =>
    rw [ruleIssues, List.mem_ite_nil_right] at member
    obtain rfl := List.mem_singleton.mp member.2
    simp [missingIssue, Issue.ofEntries]
  | found first more =>
    rcases List.mem_append.mp member with counted | numbered
    · have code := code_of_mem_countIssue? (Option.mem_toList.mp counted)
      simp only [List.mem_cons, List.not_mem_nil, or_false] at code
      rcases code with code | code <;> simp [code]
    · obtain ⟨heading, _, broken⟩ := List.mem_filterMap.mp numbered
      obtain ⟨policy, _, rfl⟩ := Option.map_eq_some_iff.mp broken
      rcases code_numberingIssue path rule heading policy with own | own <;> simp [own]

/-- What the headings of a document can be reported for. -/
theorem code_of_mem_check (member : issue ∈ (check path contract headings).issues) :
    issue.code ∈ [.headingMissing, .headingProhibitsMultiple, .headingRequiresMultiple,
      .headingNumberingRequired, .headingNumberingProhibited, .headingNumberSequence] := by
  rcases List.mem_append.mp member with caused | sequence
  · obtain ⟨⟨rule, placement⟩, _, inside⟩ := List.mem_flatMap.mp caused
    exact List.mem_append_left [.headingNumberSequence] (code_of_mem_ruleIssues inside)
  · rw [code_of_mem_sequenceIssues sequence]
    simp

/-- A heading is reported missing only where a required rule has a window and finds nothing. -/
theorem countCode_headingMissing :
    countCode .headingMissing (ruleIssues path headings rule placement) =
      match placement with
      | .missing _ => if rule.required then 1 else 0
      | _ => 0 := by
  cases placement with
  | skipped => rfl
  | missing parent => cases required : rule.required <;> simp [ruleIssues, required] <;> rfl
  | found first more =>
    rw [countCode_ruleIssues_found (by simp) (by simp)]
    unfold countIssue?
    split <;> rfl

theorem countCode_headingProhibitsMultiple :
    countCode .headingProhibitsMultiple (ruleIssues path headings rule placement) =
      match rule.multiple, placement with
      | .prohibited, .found _ (_ :: _) => 1
      | _, _ => 0 := by
  cases placement with
  | skipped => cases rule.multiple <;> rfl
  | missing parent =>
    cases rule.multiple <;> cases required : rule.required <;>
      simp [ruleIssues, required] <;> rfl
  | found first more =>
    rw [countCode_ruleIssues_found (by simp) (by simp)]
    unfold countIssue?
    cases rule.multiple <;> cases more <;> rfl

theorem countCode_headingRequiresMultiple :
    countCode .headingRequiresMultiple (ruleIssues path headings rule placement) =
      match rule.multiple, placement with
      | .required, .found _ [] => 1
      | _, _ => 0 := by
  cases placement with
  | skipped => cases rule.multiple <;> rfl
  | missing parent =>
    cases rule.multiple <;> cases required : rule.required <;>
      simp [ruleIssues, required] <;> rfl
  | found first more =>
    rw [countCode_ruleIssues_found (by simp) (by simp)]
    unfold countIssue?
    cases rule.multiple <;> cases more <;> rfl

end

end DocContract.Outline
