import DocContract.Proofs.Json.Issue
import DocContract.Proofs.Outline.Scanning
import DocContract.Proofs.Outline.Sequence
import DocContract.Proofs.Outline.Soundness
import DocContract.Proofs.Validation.Causes
import DocContract.Validation.Document

/-!
Reports lose nothing in JSON.  Each check names what it expected and found under keys of its own,
and the numbers that it tells are lines of the documents and counts of their headings.
-/

namespace DocContract

open DocContract.Json DocContract.Sorted DocContract.Text

variable {issue : Issue} {path : String} {contract : Contract}

namespace Outline

/-- Headings whose number is read back, and so are those of their lines. -/
structure Counted (headings : List Heading) : Prop where
  few : headings.length < UInt64.size
  lines : ∀ heading ∈ headings, heading.line < UInt64.size

variable {headings : List Heading} {rule : HeadingRule} {placement : Placement}

theorem counted_scanHeadings {text : String}
    (counted : (splitLines text.toList).length < UInt64.size) : Counted (scanHeadings text) where
  few := Nat.lt_of_le_of_lt (length_scanHeadings_le text) counted
  lines _ member := Nat.lt_of_le_of_lt (line_le_of_mem_scanHeadings member) counted

/-- A scanned heading is recovered from its JSON. -/
theorem Counted.ofJson?_toJson {heading : Heading} (counted : Counted headings)
    (member : heading ∈ headings) : Heading.ofJson? heading.toJson = some heading := by
  have line : below? UInt64.size (.nat heading.line) = some heading.line :=
    if_pos (counted.lines heading member)
  have parts : list? word? (.array (heading.numberParts.map fun part => .nat part.toNat)) =
      some heading.numberParts :=
    list?_array heading.numberParts word?_nat
  simp [Heading.ofJson?, Heading.toJson, fields?_object, line, parts]

theorem Counted.lineAt (counted : Counted headings) (index : Nat) :
    ∀ line ∈ headings[index]?.map (·.line), line < UInt64.size := by
  intro line found
  obtain ⟨heading, present, rfl⟩ := Option.map_eq_some_iff.mp found
  exact counted.lines heading (List.mem_of_getElem? present)

theorem lossless_numberingIssue {heading : Heading} (small : heading.line < UInt64.size)
    (broken : Policy) : (numberingIssue path rule heading broken).Lossless := by
  cases broken <;> exact Issue.lossless_at small (by simp [Issue.ownKeys])

variable (rule) in
theorem foreign_count {count : Nat} (small : count < UInt64.size) :
    Issue.Foreign [("heading_id", .string rule.id), ("count", .nat count)] := by
  simp [Issue.ownKeys, exact_nat small]

theorem lossless_of_mem_countIssue? {first : Nat} {more : List Nat} (counted : Counted headings)
    (few : more.length + 1 ≤ headings.length)
    (member : issue ∈ countIssue? path rule headings first more) : issue.Lossless := by
  have small : more.length + 1 < UInt64.size := Nat.lt_of_le_of_lt few counted.few
  unfold countIssue? at member
  split at member
  · obtain rfl := Option.some.inj member
    exact Issue.lossless_ofEntries (counted.lineAt _) (foreign_count rule small)
  · obtain rfl := Option.some.inj member
    exact Issue.lossless_ofEntries (counted.lineAt _) (foreign_count rule (by decide))
  · cases member

theorem lossless_of_mem_ruleIssues (counted : Counted headings)
    (few : placement.hits.length ≤ headings.length)
    (member : issue ∈ ruleIssues path headings rule placement) : issue.Lossless := by
  cases placement with
  | skipped => cases member
  | missing parent =>
    rw [ruleIssues, List.mem_ite_nil_right] at member
    obtain rfl := List.mem_singleton.mp member.2
    refine Issue.lossless_ofEntries ?_ (by simp [Issue.ownKeys])
    intro line inside
    obtain ⟨index, _, found⟩ := Option.bind_eq_some_iff.mp inside
    exact counted.lineAt index line found
  | found first more =>
    rcases List.mem_append.mp member with repeated | numbered
    · exact lossless_of_mem_countIssue? counted few (Option.mem_toList.mp repeated)
    · obtain ⟨heading, placed, broken⟩ := List.mem_filterMap.mp numbered
      obtain ⟨policy, _, rfl⟩ := Option.map_eq_some_iff.mp broken
      obtain ⟨index, _, present⟩ := List.mem_filterMap.mp placed
      exact lossless_numberingIssue (counted.lines heading (List.mem_of_getElem? present)) policy

/-- A number that breaks off is reported with the lines of two headings. -/
theorem lossless_of_mem_sequenceIssues (counted : Counted headings)
    (member : issue ∈ sequenceIssues path headings) : issue.Lossless := by
  obtain ⟨gap, missed, rfl⟩ := List.mem_map.mp member
  rw [gaps_eq] at missed
  obtain ⟨position, _, found⟩ := List.mem_filterMap.mp missed
  obtain ⟨heading, earlier, previous, leading, last, present, latest, _, rfl⟩ :=
    gapAt?_eq_some_iff.mp found
  have line : heading.line < UInt64.size :=
    counted.lines heading (List.mem_of_getElem? present)
  have before : previous.line < UInt64.size :=
    counted.lines previous (List.mem_of_getElem? latest.found)
  exact Issue.lossless_at line (by simp [Issue.ownKeys, exact_nat before])

theorem lossless_of_mem_check (counted : Counted headings)
    (member : issue ∈ (check path contract headings).issues) : issue.Lossless := by
  rcases List.mem_append.mp member with caused | sequence
  · obtain ⟨⟨rule, placement⟩, both, inside⟩ := List.mem_flatMap.mp caused
    exact lossless_of_mem_ruleIssues counted (length_hits_le (List.of_mem_zip both).2) inside
  · exact lossless_of_mem_sequenceIssues counted sequence

end Outline

namespace Identifier

open DocContract.Outline

/-- Occurrences on lines whose numbers are read back. -/
def Counted (occurrences : List Occurrence) : Prop :=
  ∀ occurrence ∈ occurrences, occurrence.line < UInt64.size

variable {definition task : Occurrence} {rule : IdRule} {scopes : Scopes}
variable {seen definitions tasks occurrences : List Occurrence}

theorem line_le_of_mem_scanIdentifiers {text : String} {mention : Mention}
    (member : mention ∈ scanIdentifiers text) :
    mention.line ≤ (splitLines text.toList).length := by
  obtain ⟨⟨number, line⟩, placed, inside⟩ := List.mem_flatMap.mp member
  obtain ⟨⟨role, id⟩, _, rfl⟩ := List.mem_map.mp inside
  have bound := lt_of_mem_outsideFences placed
  simp only at bound ⊢
  omega

theorem counted_resolve {grammar : Grammar} {text : String}
    (counted : (splitLines text.toList).length < UInt64.size) :
    Counted (resolve grammar scopes (scanIdentifiers text)) := by
  intro occurrence member
  obtain ⟨mention, scanned, resolved⟩ := List.mem_filterMap.mp member
  obtain ⟨parsed, _, rfl⟩ := Option.map_eq_some_iff.mp resolved
  exact Nat.lt_of_le_of_lt (line_le_of_mem_scanIdentifiers scanned) counted

theorem lossless_of_mem_ruleIssues (small : definition.line < UInt64.size)
    (member : issue ∈ ruleIssues path rule definition) : issue.Lossless := by
  unfold ruleIssues at member
  rw [List.mem_append, List.mem_append, Option.mem_toList, Option.mem_toList] at member
  rcases member with (tracked | rated) | placed
  · obtain ⟨policy, _, rfl⟩ := Option.map_eq_some_iff.mp tracked
    cases policy <;> exact Issue.lossless_at small (by simp [Issue.ownKeys])
  · obtain ⟨policy, _, rfl⟩ := Option.map_eq_some_iff.mp rated
    cases policy <;> exact Issue.lossless_at small (by simp [Issue.ownKeys])
  · split at placed
    · cases placed
    · obtain rfl := List.mem_singleton.mp placed
      exact Issue.lossless_at small (by simp [Issue.ownKeys])

theorem lossless_of_mem_contractIssues (small : definition.line < UInt64.size)
    (member : issue ∈ contractIssues path contract definition) : issue.Lossless := by
  unfold contractIssues at member
  split at member
  · obtain rfl := List.mem_singleton.mp member
    exact Issue.lossless_at small (by simp [Issue.ownKeys])
  · exact lossless_of_mem_ruleIssues small member

theorem lossless_of_mem_definitionIssues (before : Counted seen) (counted : Counted definitions)
    (member : issue ∈ definitionIssues path contract seen definitions) : issue.Lossless := by
  induction definitions generalizing seen with
  | nil => cases member
  | cons definition rest ih =>
    obtain ⟨own, later⟩ := List.forall_mem_cons.mp counted
    rw [definitionIssues, List.mem_append, List.mem_append, Option.mem_toList] at member
    rcases member with (again | contracted) | behind
    · obtain ⟨earlier, found, rfl⟩ := Option.map_eq_some_iff.mp again
      have first : earlier.line < UInt64.size := before earlier (List.mem_of_find?_eq_some found)
      exact Issue.lossless_at own (by simp [Issue.ownKeys, exact_nat first])
    · exact lossless_of_mem_contractIssues own contracted
    · have passed : Counted (seen ++ [definition]) :=
        List.forall_mem_append.mpr ⟨before, List.forall_mem_singleton.mpr own⟩
      exact ih passed later behind

theorem lossless_of_mem_completionIssue? (small : task.line < UInt64.size)
    (member : issue ∈ completionIssue? path scopes tasks task) : issue.Lossless := by
  unfold completionIssue? at member
  simp only at member
  split at member
  · cases member
  · split at member
    · obtain rfl := Option.some.inj member
      exact Issue.lossless_at small (by simp [Issue.ownKeys])
    · split at member
      · obtain rfl := Option.some.inj member
        exact Issue.lossless_at small (by simp [Issue.ownKeys])
      · cases member

theorem lossless_of_mem_check (counted : Counted occurrences)
    (member : issue ∈ check path contract occurrences scopes) : issue.Lossless := by
  have definitions : Counted (occurrences.filter (·.isDefinition)) :=
    fun definition held => counted definition (List.mem_filter.mp held).1
  rw [check, List.mem_append, List.mem_append] at member
  rcases member with (defined | completed) | required
  · exact lossless_of_mem_definitionIssues (List.forall_mem_nil _) definitions defined
  · obtain ⟨task, tracked, reported⟩ := List.mem_filterMap.mp completed
    have small := definitions task (List.mem_filter.mp tracked).1
    exact lossless_of_mem_completionIssue? small reported
  · obtain ⟨rule, _, rfl⟩ := List.mem_map.mp required
    exact Issue.lossless_ofEntries nofun (by simp [Issue.ownKeys])

end Identifier

namespace Validation

/-- Documents in which all identifiers stand on lines whose numbers are read back. -/
def Counted (scans : List DocumentScan) : Prop :=
  ∀ scan ∈ scans, Identifier.Counted scan.occurrences

variable {context : Context} {scans : List DocumentScan} {definition reference located : Located}
variable {artifactKind id : String} {rule : ReferenceRule}

theorem Counted.line (counted : Counted scans) (member : located ∈ locate scans) :
    located.line < UInt64.size := by
  obtain ⟨scan, held, written⟩ := document_of_mem_locate member
  exact counted scan held located.occurrence written

theorem Counted.line_of_defines (counted : Counted scans) (defines : Defines scans id definition) :
    definition.line < UInt64.size :=
  counted.line defines.1

theorem Counted.line_of_reference (counted : Counted scans)
    (member : reference ∈ (Index.ofDocuments scans).references) :
    reference.line < UInt64.size :=
  counted.line (mem_references_iff.mp member).1

theorem Counted.line_of_referencesFrom (counted : Counted scans)
    (member : reference ∈ (Index.ofDocuments scans).referencesFrom id artifactKind) :
    reference.line < UInt64.size :=
  counted.line (mem_referencesFrom_iff.mp member).1.1

theorem Counted.line_of_primary (counted : Counted scans)
    (member : definition ∈ (Index.ofDocuments scans).primaryDefinitions) :
    definition.line < UInt64.size :=
  counted.line_of_defines (primary?_eq_some (mem_primaryDefinitions_iff.mp member))

theorem foreign_targetContext {target : Located} (small : target.line < UInt64.size) :
    Issue.Foreign (targetContext target) := by
  simp [targetContext, Issue.ownKeys, exact_nat small]

theorem lossless_issue {severity : Severity} {code : IssueCode} {message : String}
    {members : List (String × Json)} (small : located.line < UInt64.size)
    (foreign : Issue.Foreign members) :
    (located.issue severity code message members).Lossless :=
  Issue.lossless_at small (by simp [Issue.ownKeys, foreign])

theorem lossless_of_mem_undefinedIssue? {index : Index} (small : reference.line < UInt64.size)
    (member : issue ∈ undefinedIssue? context index reference) : issue.Lossless := by
  unfold undefinedIssue? at member
  split at member
  · obtain rfl := Option.some.inj member
    exact lossless_issue small Issue.foreign_nil
  · cases member

theorem lossless_of_mem_earlyIssue? (counted : Counted scans) (small : reference.line < UInt64.size)
    (member : issue ∈ earlyIssue? (Index.ofDocuments scans) reference) : issue.Lossless := by
  unfold earlyIssue? at member
  split at member
  · obtain ⟨task, found, rfl⟩ := Option.map_eq_some_iff.mp member
    have defines := (mem_tasksOf_iff.mp (List.mem_of_find?_eq_some found)).1
    exact lossless_issue small (foreign_targetContext (counted.line_of_defines defines))
  · cases member

theorem lossless_of_mem_lateIssue? (counted : Counted scans) (small : reference.line < UInt64.size)
    (member : issue ∈ lateIssue? (Index.ofDocuments scans) reference) : issue.Lossless := by
  unfold lateIssue? at member
  simp only at member
  split at member
  · obtain ⟨task, found, rfl⟩ := Option.map_eq_some_iff.mp member
    have defines := (mem_tasksOf_iff.mp (List.mem_of_head? found)).1
    exact lossless_issue small (foreign_targetContext (counted.line_of_defines defines))
  · cases member

theorem lossless_of_mem_looseTaskIssue? (counted : Counted scans)
    (small : reference.line < UInt64.size)
    (member : issue ∈ looseTaskIssue? context (Index.ofDocuments scans) reference) :
    issue.Lossless := by
  unfold looseTaskIssue? at member
  simp only at member
  split at member
  · obtain ⟨definition, found, reported⟩ := Option.bind_eq_some_iff.mp member
    have defines := mem_definitionsOf_iff.mp (List.mem_of_head? found)
    split at reported
    · cases reported
    · cases reported
    · obtain rfl := Option.some.inj reported
      exact lossless_issue small (foreign_targetContext (counted.line_of_defines defines))
  · cases member

theorem lossless_of_mem_ruleCoverageIssues (counted : Counted scans)
    (small : definition.line < UInt64.size)
    (member : issue ∈
      ruleCoverageIssues (Index.ofDocuments scans) definition artifactKind rule) :
    issue.Lossless := by
  rcases cases_of_mem_ruleCoverageIssues member with
    rfl | rfl | ⟨first, more, referred, rfl⟩ | ⟨reference, referred, rfl⟩
  · exact lossless_issue small (by simp [Issue.ownKeys])
  · exact lossless_issue small (by simp [Issue.ownKeys])
  · have line : first.line < UInt64.size :=
      counted.line_of_referencesFrom (referred ▸ List.mem_cons_self)
    exact lossless_issue small (by simp [Issue.ownKeys, exact_nat line])
  · exact lossless_issue (counted.line_of_referencesFrom referred) (foreign_targetContext small)

theorem lossless_of_mem_referencePolicyIssues {index : Index}
    (small : reference.line < UInt64.size)
    (member : issue ∈ referencePolicyIssues context index reference) : issue.Lossless := by
  unfold referencePolicyIssues at member
  split at member
  · cases member
  · rcases List.mem_append.mp member with task | priority
    · obtain ⟨broken, _, rfl⟩ := Option.map_eq_some_iff.mp (Option.mem_toList.mp task)
      cases broken <;> exact lossless_issue small (by simp [Issue.ownKeys])
    · obtain ⟨broken, _, rfl⟩ := Option.map_eq_some_iff.mp (Option.mem_toList.mp priority)
      cases broken <;> exact lossless_issue small (by simp [Issue.ownKeys])

theorem mem_of_mem_firstInDocuments {seen : List String} {definitions : List Located}
    (member : located ∈ firstInDocuments seen definitions) : located ∈ definitions := by
  induction definitions generalizing seen with
  | nil => cases member
  | cons definition rest ih =>
    rw [firstInDocuments] at member
    split at member
    · exact List.mem_cons_of_mem _ (ih member)
    · rcases List.mem_cons.mp member with rfl | later
      · exact List.mem_cons_self
      · exact List.mem_cons_of_mem _ (ih later)

theorem lossless_of_mem_elsewhereIssues (counted : Counted scans)
    (small : definition.line < UInt64.size)
    (member : issue ∈ elsewhereIssues (Index.ofDocuments scans) definition) : issue.Lossless := by
  obtain ⟨other, kept, rfl⟩ := List.mem_map.mp member
  have defines := mem_definitionsOf_iff.mp (List.mem_of_mem_drop (mem_of_mem_firstInDocuments kept))
  exact lossless_issue (counted.line_of_defines defines) (foreign_targetContext small)

theorem lossless_of_mem_codeIssues {definitions : List Located}
    (small : ∀ definition ∈ definitions, definition.line < UInt64.size)
    (member : issue ∈ codeIssues context definitions) : issue.Lossless := by
  unfold codeIssues at member
  split at member
  · cases member
  · obtain ⟨definition, held, reported⟩ := List.mem_filterMap.mp member
    unfold codeIssue? at reported
    split at reported
    · obtain rfl := Option.some.inj reported
      exact lossless_issue (small definition held) Issue.foreign_nil
    · cases reported

theorem lossless_of_mem_checkAcross (counted : Counted scans)
    (member : issue ∈ checkAcross context scans) : issue.Lossless := by
  simp only [checkAcross, List.mem_append, or_assoc] at member
  rcases member with
    undefined | early | late | loose | coverage | policy | elsewhere | uncoded
  · obtain ⟨reference, referred, reported⟩ := List.mem_filterMap.mp undefined
    exact lossless_of_mem_undefinedIssue? (counted.line_of_reference referred) reported
  · obtain ⟨reference, referred, reported⟩ := List.mem_filterMap.mp early
    exact lossless_of_mem_earlyIssue? counted (counted.line_of_reference referred) reported
  · obtain ⟨reference, referred, reported⟩ := List.mem_filterMap.mp late
    exact lossless_of_mem_lateIssue? counted (counted.line_of_reference referred) reported
  · obtain ⟨reference, referred, reported⟩ := List.mem_filterMap.mp loose
    exact lossless_of_mem_looseTaskIssue? counted (counted.line_of_reference referred) reported
  · obtain ⟨definition, defined, reported⟩ := List.mem_flatMap.mp coverage
    obtain ⟨artifactKind, rule, inside⟩ := cases_of_mem_coverageIssues reported
    exact lossless_of_mem_ruleCoverageIssues counted (counted.line_of_primary defined) inside
  · obtain ⟨reference, referred, reported⟩ := List.mem_flatMap.mp policy
    exact lossless_of_mem_referencePolicyIssues (counted.line_of_reference referred) reported
  · obtain ⟨definition, defined, reported⟩ := List.mem_flatMap.mp elsewhere
    exact lossless_of_mem_elsewhereIssues counted (counted.line_of_primary defined) reported
  · exact lossless_of_mem_codeIssues (fun _ defined => counted.line_of_primary defined) uncoded

variable {document : Document} {documents : List Document}

theorem lossless_of_mem_validateDocument
    (counted : (splitLines document.text.toList).length < UInt64.size)
    (member : issue ∈ (validateDocument context document).issues) : issue.Lossless := by
  unfold validateDocument at member
  split at member
  · obtain rfl := List.mem_singleton.mp member
    exact Issue.lossless_ofEntries nofun (by simp [Issue.ownKeys])
  · simp only [List.mem_append] at member
    rcases member with outline | identifiers
    · exact Outline.lossless_of_mem_check (Outline.counted_scanHeadings counted) outline
    · split at identifiers
      · cases identifiers
      · exact Identifier.lossless_of_mem_check (Identifier.counted_resolve counted) identifiers

theorem counted_of_scan {scan : DocumentScan}
    (counted : (splitLines document.text.toList).length < UInt64.size)
    (read : (validateDocument context document).scan = some scan) :
    Identifier.Counted scan.occurrences := by
  unfold validateDocument at read
  split at read
  · cases read
  · obtain rfl := Option.some.inj read
    exact Identifier.counted_resolve counted

theorem lossless_of_mem_documentIssues
    (counted : ∀ document ∈ documents,
      (splitLines document.text.toList).length < UInt64.size)
    (member : issue ∈ documentIssues context documents) : issue.Lossless := by
  rcases List.mem_append.mp member with alone | across
  · obtain ⟨outcome, made, inside⟩ := List.mem_flatMap.mp alone
    obtain ⟨document, given, rfl⟩ := List.mem_map.mp made
    exact lossless_of_mem_validateDocument (counted document given) inside
  · refine lossless_of_mem_checkAcross ?_ across
    intro scan scanned
    obtain ⟨outcome, made, read⟩ := List.mem_filterMap.mp scanned
    obtain ⟨document, given, rfl⟩ := List.mem_map.mp made
    exact counted_of_scan (counted document given) read

/-- Every issue of a report is recovered from its JSON, whatever the schema, the context and the
documents hold.  The lines of a document have to be counted in 64 bits, in which lines are read. -/
theorem validateDocuments_survive_json (context : Context) (documents : List Document)
    (counted : ∀ document ∈ documents,
      (splitLines document.text.toList).length < UInt64.size) :
    ∀ issue ∈ (validateDocuments context documents).issues, issue.SurvivesJson := by
  intro issue member
  have issued : issue ∈ documentIssues context documents := by
    rcases List.mem_append.mp member with error | warning
    · exact (List.mem_filter.mp error).1
    · exact (List.mem_filter.mp warning).1
  exact (lossless_of_mem_documentIssues counted issued).survivesJson

/-- A schema that names things by the keys that every issue has. -/
def ownKeySchema : Schema :=
  let title : HeadingRule :=
    ⟨"message", 1, none, none, true, .allowed, .allowed, none, some "line"⟩
  let part : HeadingRule :=
    ⟨"line", 2, some "^path$", none, true, .allowed, .allowed, some "message", none⟩
  let contract : Contract := ⟨"code", none, [title, part], ∅⟩
  ⟨Schema.currentVersion, Schema.currentKind, "", KeyMap.empty.insert "severity" contract⟩

/-- One document lacks a heading, and the other is of no known kind. -/
def ownKeyDocuments : List Document :=
  [⟨"code", "severity", "# message\n"⟩, ⟨"line", "message", ""⟩]

theorem validateDocuments_survive_json_ownKeys :
    let report := validateDocuments (.ofSchema ownKeySchema [] [] none) ownKeyDocuments
    (∀ document ∈ ownKeyDocuments, (splitLines document.text.toList).length < UInt64.size) ∧
      report.issues.map (fun issue => (issue.code, issue.line, issue.context.keys)) =
        [(.headingMissing, some 1, ["heading_id", "level", "next", "pattern", "prev"]),
          (.artifactKindUnknown, none, ["artifact_kind", "known"])] ∧
      ∀ issue ∈ report.issues, issue.SurvivesJson := by
  have counted : ∀ document ∈ ownKeyDocuments,
      (splitLines document.text.toList).length < UInt64.size := by
    decide +kernel
  exact ⟨counted, by decide +kernel, validateDocuments_survive_json _ _ counted⟩

end Validation

end DocContract
