import DocContract.Proofs.Identifier.Issues
import DocContract.Proofs.Identifier.Resolution
import DocContract.Proofs.Outline.Issues
import DocContract.Proofs.Validation.Causes
import DocContract.Validation.Document

namespace DocContract.Validation

open DocContract.Sorted DocContract.Identifier DocContract.Identifier.Grammar DocContract.Text

/-- The system is external and the kind known, no token of the system or the slug is a known kind,
and no external or registered system that fits the identifier is longer. -/
structure NamesExternal (schema : Schema) (registered external : List String)
    (system kind slug : String) : Prop where
  outside : system ∈ external
  known : kind ∈ schema.idKinds
  plainSystem : ∀ token ∈ tokensOf system.toList, token ∉ schema.idKinds
  plainSlug : ∀ token ∈ tokensOf slug.toList, token ∉ schema.idKinds
  longest : ∀ other ∈ external ++ registered, Fits other (canonicalId system kind slug) →
    other.length ≤ system.length

/-- No longer system fits if there is none that is longer. -/
theorem NamesExternal.of_lengths {schema : Schema} {registered external : List String}
    {system kind slug : String} (outside : system ∈ external) (known : kind ∈ schema.idKinds)
    (plainSystem : ∀ token ∈ tokensOf system.toList, token ∉ schema.idKinds)
    (plainSlug : ∀ token ∈ tokensOf slug.toList, token ∉ schema.idKinds)
    (shorter : ∀ other ∈ external ++ registered, other.length ≤ system.length) :
    NamesExternal schema registered external system kind slug :=
  ⟨outside, known, plainSystem, plainSlug, fun other member _ => shorter other member⟩

section

variable {context : Context} {document : Document} {documents : List Document}
variable {reference : Located} {issue : Issue} {scan : DocumentScan} {occurrence : Occurrence}

theorem code_ne_of_mem_validateDocument
    (member : issue ∈ (validateDocument context document).issues) :
    issue.code ≠ .refNoDefinition := by
  unfold validateDocument at member
  split at member
  · obtain rfl := List.mem_singleton.mp member
    simp [unknownKindIssue, Issue.ofEntries]
  · intro same
    simp only [List.mem_append] at member
    rcases member with outline | identifiers
    · have code := Outline.code_of_mem_check outline
      simp [same] at code
    · split at identifiers
      · cases identifiers
      · have code := Identifier.code_of_mem_check identifiers
        simp [same] at code

theorem parse?_of_mem_occurrences (read : (validateDocument context document).scan = some scan)
    (member : occurrence ∈ scan.occurrences) :
    context.grammar.parse? occurrence.id = some occurrence.parsed := by
  unfold validateDocument at read
  split at read
  · cases read
  · obtain rfl := Option.some.inj read
    obtain ⟨mention, _, resolved⟩ := List.mem_filterMap.mp member
    obtain ⟨parsed, found, rfl⟩ := Option.map_eq_some_iff.mp resolved
    obtain ⟨_, _, _, _, made⟩ := parse?_eq_some_iff.mp found
    have own : parsed.raw = mention.id := made ▸ parsed_raw _ _
    simpa [Occurrence.id, own] using found

theorem context_of_undefinedIssue? {index : Index}
    (reported : undefinedIssue? context index reference = some issue) :
    reference.occurrence.parsed.system ∉ context.externalSystems ∧
      issue.context.find? "id" = some (.string reference.id) := by
  unfold undefinedIssue? at reported
  split at reported
  · next undefined =>
    rw [Bool.and_eq_true, Bool.not_eq_true', Context.isExternal] at undefined
    obtain rfl := Option.some.inj reported
    refine ⟨?_, ?_⟩
    · intro outside
      rw [KeySet.contains_iff_mem.mpr outside] at undefined
      exact Bool.noConfusion undefined.2
    · rw [KeyMap.find?_eq_some_iff]
      simp [Located.issue, Issue.ofEntries, KeyMap.ofList, KeyMap.insert, KeyMap.empty,
        insertEntry]
  · cases reported

/-- An identifier without a definition is reported where it is referred to and its system is not
external. -/
theorem occurrence_of_refNoDefinition (member : issue ∈ documentIssues context documents)
    (code : issue.code = .refNoDefinition) : ∃ occurrence : Occurrence,
      context.grammar.parse? occurrence.id = some occurrence.parsed ∧
        occurrence.parsed.system ∉ context.externalSystems ∧
        issue.context.find? "id" = some (.string occurrence.id) := by
  rcases List.mem_append.mp member with alone | across
  · obtain ⟨outcome, made, inside⟩ := List.mem_flatMap.mp alone
    obtain ⟨document, _, rfl⟩ := List.mem_map.mp made
    exact absurd code (code_ne_of_mem_validateDocument inside)
  · obtain ⟨before, behind, shape, others⟩ := checkAcross_segments context
      ((documents.map (validateDocument context)).filterMap (·.scan))
    rw [shape] at across
    simp only [List.mem_append, or_assoc] at across others
    rcases across with undefined | ahead | coverage | rest
    · obtain ⟨reference, referred, reported⟩ := List.mem_filterMap.mp undefined
      obtain ⟨scan, scanned, written⟩ :=
        document_of_mem_locate (mem_references_iff.mp referred).1
      obtain ⟨outcome, made, read⟩ := List.mem_filterMap.mp scanned
      obtain ⟨document, _, rfl⟩ := List.mem_map.mp made
      exact ⟨reference.occurrence, parse?_of_mem_occurrences read written,
        context_of_undefinedIssue? reported⟩
    · have other := others issue (.inl ahead)
      simp [code] at other
    · obtain ⟨definition, _, reported⟩ := List.mem_flatMap.mp coverage
      have other := code_of_mem_coverageIssues reported
      simp [code] at other
    · have other := others issue (.inr rest)
      simp [code] at other

end

/-- The identifiers that are of an external system resolve to it, if it is registered too, or if
the kind is one token and no shorter registered system fits. -/
theorem NamesExternal.system_eq {schema : Schema} {registered external : List String}
    {system kind slug : String} {parsed : Parsed} {grammar : Grammar}
    (names : NamesExternal schema registered external system kind slug)
    (made : grammar = .ofSystems registered schema.idKinds schema.nestedKinds)
    (decided : system ∈ registered ∨ '-' ∉ kind.toList ∧
      ∀ other ∈ registered, Fits other (canonicalId system kind slug) →
        system.length ≤ other.length)
    (found : grammar.parse? (canonicalId system kind slug) = some parsed) :
    parsed.system = system := by
  have unknown {token : String} (absent : token ∉ schema.idKinds) :
      grammar.isKind token = false := by
    rw [made, Grammar.isKind, Bool.eq_false_iff, Ne, Grammar.ofSystems, KeySet.contains_iff_mem]
    exact absent
  have known : grammar.isKind kind = true := by
    rw [made, Grammar.isKind, Grammar.ofSystems, KeySet.contains_iff_mem]
    exact names.known
  have notLonger (other : String) (member : other ∈ registered) :=
    names.longest other (List.mem_append_right _ member)
  have mode : LongestFit registered (canonicalId system kind slug) system ∨
      '-' ∉ kind.toList ∧ ∀ other ∈ registered, ¬ Fits other (canonicalId system kind slug) := by
    by_cases member : system ∈ registered
    · exact .inl ⟨member, fits_canonicalId system kind slug, notLonger⟩
    · obtain ⟨single, notShorter⟩ := decided.resolve_left member
      refine .inr ⟨single, fun other inside fits => member ?_⟩
      have same : system.length = other.length :=
        Nat.le_antisymm (notShorter other inside fits) (notLonger other inside fits)
      rwa [eq_of_fits (fits_canonicalId system kind slug) fits same]
  exact system_of_parse? made known
    (fun token member => unknown (names.plainSystem token member))
    (fun token member => unknown (names.plainSlug token member)) rfl mode found

/-- What refers to an identifier of an external system is not reported for the missing definition,
if the system is registered too, or if the kind is one token and no shorter registered system
fits. -/
theorem external_reference_not_reported (schema : Schema) (registered external : List String)
    (codeReferences : Option (List String)) (system kind slug : String)
    (names : NamesExternal schema registered external system kind slug)
    (decided : system ∈ registered ∨ '-' ∉ kind.toList ∧
      ∀ other ∈ registered, Fits other (canonicalId system kind slug) →
        system.length ≤ other.length)
    (documents : List Document) :
    ∀ issue ∈ (validateDocuments (.ofSchema schema registered external codeReferences)
        documents).issues,
      issue.code = .refNoDefinition →
        issue.context.find? "id" ≠ some (.string (canonicalId system kind slug)) := by
  intro issue member code reported
  have issued : issue ∈ documentIssues (.ofSchema schema registered external codeReferences)
      documents := by
    rcases List.mem_append.mp member with error | warning
    · exact (List.mem_filter.mp error).1
    · exact (List.mem_filter.mp warning).1
  obtain ⟨occurrence, found, foreign, identified⟩ := occurrence_of_refNoDefinition issued code
  have own : occurrence.id = canonicalId system kind slug := by
    simpa using identified.symm.trans reported
  rw [own] at found
  have resolved := names.system_eq rfl decided found
  exact foreign (resolved ▸ KeySet.mem_ofList.mpr names.outside)

/-- A schema with one kind of requirement. -/
def requirementSchema (kind : String) : Schema :=
  let rule : IdRule := ⟨kind, false, none, none, none, .allowed, .allowed, false, ∅, ∅, ∅⟩
  let contract : Contract := ⟨"PRD", none, [], KeyMap.empty.insert kind rule⟩
  ⟨Schema.currentVersion, Schema.currentKind, "", KeyMap.empty.insert "PRD" contract⟩

def loginDocument (kind : String) : Document :=
  ⟨"docs/PRD.md", "PRD", "As `" ++ canonicalId "account-server" kind "login" ++ "` wants.\n"⟩

/-- What the reference is reported for where these systems are registered. -/
def loginReports (registered : List String) (kind : String) : List (IssueCode × Option String) :=
  (validateDocuments (.ofSchema (requirementSchema kind) registered ["account-server"] none)
    [loginDocument kind]).issues.map fun issue =>
      (issue.code, (issue.context.find? "id").bind Json.text?)

/-- Where the account server is registered, it does not matter that the accounts are. -/
theorem external_reference_accountServer :
    NamesExternal (requirementSchema "fr") ["account", "account-server"] ["account-server"]
        "account-server" "fr" "login" ∧
      ∀ issue ∈ (validateDocuments (.ofSchema (requirementSchema "fr")
          ["account", "account-server"] ["account-server"] none) [loginDocument "fr"]).issues,
        issue.code = .refNoDefinition →
          issue.context.find? "id" ≠
            some (.string (canonicalId "account-server" "fr" "login")) := by
  have names : NamesExternal (requirementSchema "fr") ["account", "account-server"]
      ["account-server"] "account-server" "fr" "login" :=
    .of_lengths List.mem_cons_self (by decide +kernel) (by decide +kernel) (by decide +kernel)
      (by decide)
  exact ⟨names, external_reference_not_reported _ _ _ none _ _ _ names (.inl (by simp)) _⟩

/-- Without that the identifier resolves to a shorter system that is registered, or its kind is not
found again if that is no single token, and the reference is reported. -/
theorem external_reference_reported :
    (NamesExternal (requirementSchema "fr") ["account"] ["account-server"] "account-server" "fr"
        "login" ∧
      loginReports ["account"] "fr" =
        [(.refNoDefinition, some (canonicalId "account-server" "fr" "login"))]) ∧
      NamesExternal (requirementSchema "non-functional") [] ["account-server"] "account-server"
        "non-functional" "login" ∧
      loginReports [] "non-functional" =
        [(.refNoDefinition, some (canonicalId "account-server" "non-functional" "login"))] := by
  refine ⟨⟨?shorter, by decide +kernel⟩, ?tokens, by decide +kernel⟩
  case shorter =>
    exact .of_lengths List.mem_cons_self (by decide +kernel) (by decide +kernel)
      (by decide +kernel) (by decide)
  case tokens =>
    exact .of_lengths List.mem_cons_self (by decide +kernel) (by decide +kernel)
      (by decide +kernel) (by decide)

end DocContract.Validation
