import DocContract.Proofs.Outline.Issues
import DocContract.Proofs.Outline.Soundness

/-!
A rule looks for its headings in its window alone: it takes the earliest there that can stand for
it, and a heading elsewhere does not help.
-/

namespace DocContract.Outline

/-- The heading at the position is in the window of the rule and can stand for it. -/
def Eligible (contract : Contract) (headings : List Heading) (slot : Nat) (rule : HeadingRule)
    (position : Nat) : Prop :=
  InWindow (contract.headings.map (·.level)) headings (placements contract headings) slot position ∧
    ∃ heading, headings[position]? = some heading ∧ rule.Admits heading

/-- What the rule at a position gets, and how often it reports a heading as missing. -/
structure ScopedSearch (path : String) (contract : Contract) (headings : List Heading) (slot : Nat)
    (rule : HeadingRule) : Prop where
  /-- Without a heading in its parent it gets none and reports none. -/
  orphaned : Orphan (contract.headings.map (·.level)) (placements contract headings) slot →
    hitsAt (placements contract headings) slot = [] ∧
      countCode .headingMissing (issuesAt path contract headings slot) = 0
  /-- If its window holds headings that can stand for it, the earliest of them is its first. -/
  satisfied : ¬ Orphan (contract.headings.map (·.level)) (placements contract headings) slot →
    (∃ position, Eligible contract headings slot rule position) →
    ∃ first, (hitsAt (placements contract headings) slot).head? = some first ∧
      Eligible contract headings slot rule first ∧
      (∀ position, Eligible contract headings slot rule position → first ≤ position) ∧
      countCode .headingMissing (issuesAt path contract headings slot) = 0
  /-- If its window holds none it gets none, and reports that once if it is required. -/
  unsatisfied : ¬ Orphan (contract.headings.map (·.level)) (placements contract headings) slot →
    (∀ position, ¬ Eligible contract headings slot rule position) →
    hitsAt (placements contract headings) slot = [] ∧
      countCode .headingMissing (issuesAt path contract headings slot) =
        if rule.required then 1 else 0

section

variable {path : String} {contract : Contract} {headings : List Heading} {rule : HeadingRule}
variable {slot position : Nat}

private theorem eligible_iff :
    Eligible contract headings slot rule position ↔
      InWindow ((contract.headings.map Slot.ofRule).map (·.level)) headings
        (place (contract.headings.map Slot.ofRule) headings) slot position ∧
      (Slot.ofRule rule).Fits headings position := by
  rw [map_level_ofRule]
  simp only [Eligible, Slot.Fits, accepts_ofRule_iff, placements]

variable (path headings) in
/-- A rule has no window, finds nothing in it, or finds the earliest heading that it can. -/
theorem search_cases (ruled : contract.headings[slot]? = some rule) :
    (Orphan (contract.headings.map (·.level)) (placements contract headings) slot ∧
        hitsAt (placements contract headings) slot = [] ∧
        countCode .headingMissing (issuesAt path contract headings slot) = 0) ∨
      ¬ Orphan (contract.headings.map (·.level)) (placements contract headings) slot ∧
        ((∀ position, ¬ Eligible contract headings slot rule position) ∧
            hitsAt (placements contract headings) slot = [] ∧
            countCode .headingMissing (issuesAt path contract headings slot) =
              (if rule.required then 1 else 0) ∨
          ∃ first, (hitsAt (placements contract headings) slot).head? = some first ∧
            Eligible contract headings slot rule first ∧
            (∀ position, Eligible contract headings slot rule position → first ≤ position) ∧
            countCode .headingMissing (issuesAt path contract headings slot) = 0) := by
  obtain ⟨placement, placed, finds⟩ := place_finds headings (getElem?_ofRule ruled)
  have hits : hitsAt (placements contract headings) slot = placement.hits :=
    hitsAt_eq_of_getElem? placed
  rw [hits, issuesAt_eq ruled placed, countCode_headingMissing]
  simp only [eligible_iff]
  rw [← map_level_ofRule]
  cases finds with
  | skipped orphan => exact .inl ⟨orphan, rfl, rfl⟩
  | missing parent adopted unfit =>
    refine .inr ⟨adopted, .inl ⟨?_, rfl, rfl⟩⟩
    rintro position ⟨inside, fits⟩
    exact unfit position inside fits
  | found first stop adopted inside fits earliest _ =>
    refine .inr ⟨adopted, .inr ⟨first, rfl, ⟨inside, fits⟩, ?_, rfl⟩⟩
    rintro position ⟨held, fitting⟩
    exact earliest position held fitting

end

/-- Every rule searches its own window, and nothing else reports a missing heading. -/
theorem check_scopes_search (path : String) (contract : Contract) (headings : List Heading) :
    (∀ slot rule, contract.headings[slot]? = some rule →
      ScopedSearch path contract headings slot rule) ∧
    (check path contract headings).issues =
      (List.range contract.headings.length).flatMap (issuesAt path contract headings) ++
        sequenceIssues path headings ∧
    countCode .headingMissing (sequenceIssues path headings) = 0 := by
  refine ⟨?_, check_issues, ?_⟩
  · intro slot rule ruled
    have outcome := search_cases path headings ruled
    constructor
    · intro orphan
      rcases outcome with ⟨_, none⟩ | ⟨adopted, _⟩
      · exact none
      · exact absurd orphan adopted
    · rintro adopted ⟨position, eligible⟩
      rcases outcome with ⟨orphan, _⟩ | ⟨_, ⟨unfit, _⟩ | found⟩
      · exact absurd orphan adopted
      · exact absurd eligible (unfit position)
      · exact found
    · intro adopted unfit
      rcases outcome with ⟨orphan, _⟩ | ⟨_, ⟨_, none⟩ | ⟨first, _, eligible, _⟩⟩
      · exact absurd orphan adopted
      · exact none
      · exact absurd eligible (unfit first)
  · refine countCode_eq_zero_iff.mpr ?_
    intro issue member
    simp [code_of_mem_sequenceIssues member]

end DocContract.Outline
