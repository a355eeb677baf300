import DocContract.Proofs.Outline.Issues
import DocContract.Proofs.Outline.Soundness
import DocContract.Proofs.Outline.Spread

/-!
A full outline, with one heading for each rule in their order, is taken as it is meant: no rule
takes a heading that is there for a later one.
-/

namespace DocContract.Outline

/-- If there is one heading for each rule in their order, and each can stand for its rule, then each
does so alone, and no heading is reported as missing or as one too many. -/
theorem check_full_outline (path : String) (contract : Contract) (headings : List Heading)
    (size : headings.length = contract.headings.length)
    (admitted : ∀ (index : Nat) (rule : HeadingRule) (heading : Heading),
      contract.headings[index]? = some rule → headings[index]? = some heading →
      rule.Admits heading) :
    (∀ slot < contract.headings.length, hitsAt (placements contract headings) slot = [slot]) ∧
      (∀ position < headings.length,
        slotOf? (placements contract headings) position = some position) ∧
      countCode .headingMissing (check path contract headings).issues = 0 ∧
      countCode .headingProhibitsMultiple (check path contract headings).issues = 0 := by
  have fills : Fills (contract.headings.map Slot.ofRule) headings := by
    refine ⟨by simpa using size, ?_⟩
    intro index slot heading found present
    obtain ⟨rule, ruled, rfl⟩ : ∃ rule, contract.headings[index]? = some rule ∧
        Slot.ofRule rule = slot := by simpa using found
    exact accepts_ofRule_iff.mpr (admitted index rule heading ruled present)
  have placed (slot : Nat) (bound : slot < contract.headings.length) :
      (placements contract headings)[slot]? = some (.found slot []) :=
    fills.found (by simpa using bound)
  have alone (slot : Nat) (bound : slot < contract.headings.length) :
      hitsAt (placements contract headings) slot = [slot] :=
    hitsAt_eq_of_getElem? (placed slot bound)
  refine ⟨alone, ?_, ?_, ?_⟩
  · intro position bound
    have own : position ∈ hitsAt (placements contract headings) position := by
      simp [alone position (size ▸ bound)]
    exact slotOf?_eq_some_iff.mpr own
  · apply countCode_check_eq_zero (by simp)
    intro slot rule bound
    rw [issuesAt_eq bound (placed slot (List.getElem?_eq_some_iff.mp bound).1),
      countCode_headingMissing]
  · apply countCode_check_eq_zero (by simp)
    intro slot rule bound
    rw [issuesAt_eq bound (placed slot (List.getElem?_eq_some_iff.mp bound).1),
      countCode_headingProhibitsMultiple]
    cases rule.multiple <;> rfl

/-- Rules whose patterns overlap: the first takes all titles of its level, also those that the third
and the last take. -/
def overlappingContract : Contract where
  name := "PRD"
  description := none
  headings := [
    ⟨"scope", 2, none, none, true, .allowed, .allowed, none, none⟩,
    ⟨"goals", 3, some "goals", none, true, .allowed, .allowed, none, none⟩,
    ⟨"steps", 2, some "s.*e", none, true, .prohibited, .allowed, none, none⟩,
    ⟨"rest", 2, none, none, false, .allowed, .allowed, none, none⟩]
  definedIds := ∅

def overlappingOutline : List Heading := [
  ⟨1, 2, "Scope", false, []⟩, ⟨3, 3, "Goals", false, []⟩, ⟨5, 2, "1. Scope", true, [1]⟩,
  ⟨7, 2, "Scope", false, []⟩]

/-- Each heading is for its own rule, although others would take it too. -/
theorem check_overlapping_outline :
    (∀ slot < 4, hitsAt (placements overlappingContract overlappingOutline) slot = [slot]) ∧
      (∀ position < 4,
        slotOf? (placements overlappingContract overlappingOutline) position = some position) ∧
      countCode .headingMissing
        (check "docs/PRD.md" overlappingContract overlappingOutline).issues = 0 ∧
      countCode .headingProhibitsMultiple
        (check "docs/PRD.md" overlappingContract overlappingOutline).issues = 0 := by
  have admitted : ∀ pair ∈ overlappingContract.headings.zip overlappingOutline,
      pair.1.Admits pair.2 := by
    decide +kernel
  apply check_full_outline "docs/PRD.md" overlappingContract overlappingOutline rfl
  intro index rule heading ruled present
  exact admitted (rule, heading)
    (List.mem_of_getElem? (List.getElem?_zip_eq_some.mpr ⟨ruled, present⟩))

end DocContract.Outline
