import DocContract.Outline.Check
import DocContract.Proofs.Outline.Run
import Mathlib.Data.List.Perm.Subperm

namespace DocContract

def HeadingRule.Admits (rule : HeadingRule) (heading : Outline.Heading) : Prop :=
  heading.level = rule.level ∧
    (Outline.Matcher.ofPattern rule.pattern).accepts heading.title = true

instance (rule : HeadingRule) (heading : Outline.Heading) : Decidable (rule.Admits heading) :=
  inferInstanceAs (Decidable (_ ∧ _))

namespace Outline

theorem accepts_ofRule_iff {rule : HeadingRule} {heading : Heading} :
    (Slot.ofRule rule).accepts heading = true ↔ rule.Admits heading := by
  simp [Slot.accepts, Slot.ofRule, HeadingRule.Admits]

/-- What it means that the headings at the positions have been placed soundly. -/
structure SoundPlacement (rules : List HeadingRule) (headings : List Heading)
    (placements : List Placement) : Prop where
  /-- Each heading in a slot can stand for the rule of the slot. -/
  admitted : ∀ slot position, position ∈ hitsAt placements slot →
    ∃ rule heading, rules[slot]? = some rule ∧ headings[position]? = some heading ∧
      rule.Admits heading
  /-- No heading stands in two slots. -/
  single : ∀ slot other position, position ∈ hitsAt placements slot →
    position ∈ hitsAt placements other → slot = other
  /-- The slot that sections are named for is the one in which the heading stands. -/
  recorded : ∀ slot position, slotOf? placements position = some slot ↔
    position ∈ hitsAt placements slot
  /-- Headings in a slot stand before all headings in later slots. -/
  ordered : ∀ slot later position behind, slot < later → position ∈ hitsAt placements slot →
    behind ∈ hitsAt placements later → position < behind
  /-- The headings in a slot are held in their order. -/
  increasing : ∀ slot, (hitsAt placements slot).Pairwise (· < ·)
  /-- Only deeper headings stand between two that follow each other in a slot. -/
  consecutive : ∀ slot rule position next other heading, rules[slot]? = some rule →
    position ∈ hitsAt placements slot → next ∈ hitsAt placements slot →
    (∀ hit ∈ hitsAt placements slot, position < hit → next ≤ hit) →
    position < other → other < next → headings[other]? = some heading →
    rule.level < heading.level
  /-- A slot with a heading has one in its parent too, and its headings stand behind the last of
  these and before the next heading that is not deeper than the parent. -/
  nested : ∀ slot position parent rule, position ∈ hitsAt placements slot →
    Hierarchy.parent? (rules.map (·.level)) slot = some parent → rules[parent]? = some rule →
    ∃ last, (hitsAt placements parent).getLast? = some last ∧ last < position ∧
      ∀ other heading, last < other → headings[other]? = some heading →
        heading.level ≤ rule.level → position < other

section

variable {slots : List Slot} {headings : List Heading} {placements : List Placement}
variable {slot : Slot} {placement : Placement} {index position next other : Nat}

theorem finds_of_mem_hitsAt (member : position ∈ hitsAt (place slots headings) index) :
    ∃ slot placement, slots[index]? = some slot ∧
      (place slots headings)[index]? = some placement ∧ position ∈ placement.hits ∧
      Finds slots headings (place slots headings) index slot placement := by
  have bound : index < slots.length := by
    have placed : index < (place slots headings).length := lt_length_of_mem_hitsAt member
    rwa [length_place] at placed
  have present := List.getElem?_eq_getElem bound
  obtain ⟨placement, found, finds⟩ := place_finds headings present
  rw [hitsAt_eq_of_getElem? found] at member
  exact ⟨_, placement, present, found, member, finds⟩

theorem lt_of_mem_hitsAt {later : Nat} (before : index < later)
    (member : position ∈ hitsAt (place slots headings) index)
    (behind : next ∈ hitsAt (place slots headings) later) : position < next := by
  obtain ⟨_, _, _, _, held, finds⟩ := finds_of_mem_hitsAt behind
  exact (finds.inWindow held).behind index before position member

theorem eq_of_mem_hitsAt {later : Nat} (member : position ∈ hitsAt (place slots headings) index)
    (again : position ∈ hitsAt (place slots headings) later) : index = later := by
  rcases Nat.lt_trichotomy index later with before | same | after
  · exact absurd (lt_of_mem_hitsAt before member again) (Nat.lt_irrefl _)
  · exact same
  · exact absurd (lt_of_mem_hitsAt after again member) (Nat.lt_irrefl _)

theorem pairwise_hitsAt : (hitsAt (place slots headings) index).Pairwise (· < ·) := by
  cases hits : hitsAt (place slots headings) index with
  | nil => exact .nil
  | cons first more =>
    have member : first ∈ hitsAt (place slots headings) index := by simp [hits]
    obtain ⟨_, _, _, found, _, finds⟩ := finds_of_mem_hitsAt member
    rw [← hits, hitsAt_eq_of_getElem? found]
    exact finds.pairwise

theorem length_hits_le (placed : placement ∈ place slots headings) :
    placement.hits.length ≤ headings.length := by
  obtain ⟨index, found⟩ := List.mem_iff_getElem?.mp placed
  have ordered : (hitsAt (place slots headings) index).Pairwise (· < ·) := pairwise_hitsAt
  have inside : hitsAt (place slots headings) index ⊆ List.range headings.length := by
    intro position member
    obtain ⟨_, _, _, _, held, finds⟩ := finds_of_mem_hitsAt member
    obtain ⟨heading, present, _⟩ := finds.fits held
    exact List.mem_range.mpr (List.getElem?_eq_some_iff.mp present).1
  rw [hitsAt_eq_of_getElem? found] at ordered inside
  have distinct : placement.hits.Nodup := ordered.imp Nat.ne_of_lt
  simpa using (distinct.subperm inside).length_le

theorem slotOf?_eq_some_iff :
    slotOf? (place slots headings) position = some index ↔
      position ∈ hitsAt (place slots headings) index := by
  have holds (slot : Nat) (bound : slot < (place slots headings).length) :
      (place slots headings)[slot].hits.contains position = true ↔
        position ∈ hitsAt (place slots headings) slot := by
    rw [hitsAt_eq_of_getElem? (List.getElem?_eq_getElem bound), List.contains_iff_mem]
  unfold slotOf?
  rw [List.findIdx?_eq_some_iff_getElem]
  constructor
  · rintro ⟨bound, held, _⟩
    exact (holds index bound).mp held
  · intro member
    have bound := lt_length_of_mem_hitsAt member
    refine ⟨bound, (holds index bound).mpr member, ?_⟩
    intro earlier before held
    have early := (holds earlier (Nat.lt_trans before bound)).mp held
    exact absurd (eq_of_mem_hitsAt early member) (Nat.ne_of_lt before)

/-- Between two headings of a slot every heading is deeper or in the slot as well. -/
theorem Finds.deeper_or_mem {heading : Heading}
    (finds : Finds slots headings placements index slot placement)
    (member : position ∈ placement.hits) (later : next ∈ placement.hits) (after : position < other)
    (before : other < next) (found : headings[other]? = some heading) :
    slot.level < heading.level ∨ other ∈ placement.hits := by
  cases finds with
  | skipped _ => simp [Placement.hits] at member
  | missing _ _ _ => simp [Placement.hits] at member
  | found first stop _ _ _ _ _ =>
    have least : first ≤ position := by
      rcases List.mem_cons.mp member with same | further
      · exact Nat.le_of_eq same.symm
      · exact Nat.le_of_lt (mem_furtherHits_iff.mp further).behind
    have start : first + 1 ≤ other := Nat.lt_of_le_of_lt least after
    have hit : FurtherHit slot (siblingAfter? slots index) headings (first + 1) stop next := by
      rcases List.mem_cons.mp later with same | further
      · omega
      · exact mem_furtherHits_iff.mp further
    rcases hit.passed other heading start before found with deeper | repeated
    · exact .inl deeper
    · exact .inr (List.mem_cons_of_mem first
        (mem_furtherHits_iff.mpr (hit.earlier start before found repeated)))

end

theorem map_level_ofRule (rules : List HeadingRule) :
    (rules.map Slot.ofRule).map (·.level) = rules.map (·.level) := by
  simp [Slot.ofRule, Function.comp_def]

theorem getElem?_ofRule {rules : List HeadingRule} {rule : HeadingRule} {slot : Nat}
    (found : rules[slot]? = some rule) :
    (rules.map Slot.ofRule)[slot]? = some (Slot.ofRule rule) := by
  simp [found]

/-- For any contract and outline, the headings are placed soundly. -/
theorem placements_sound (contract : Contract) (headings : List Heading) :
    SoundPlacement contract.headings headings (placements contract headings) where
  admitted slot position member := by
    obtain ⟨taken, placement, found, _, held, finds⟩ := finds_of_mem_hitsAt member
    obtain ⟨heading, present, accepted⟩ := finds.fits held
    obtain ⟨rule, ruled, rfl⟩ : ∃ rule, contract.headings[slot]? = some rule ∧
        Slot.ofRule rule = taken := by simpa using found
    exact ⟨rule, heading, ruled, present, accepts_ofRule_iff.mp accepted⟩
  single slot other position member again := eq_of_mem_hitsAt member again
  recorded slot position := slotOf?_eq_some_iff
  ordered slot later position behind before member held := lt_of_mem_hitsAt before member held
  increasing slot := pairwise_hitsAt
  consecutive slot rule position next other heading ruled member later adjacent after before
      found := by
    obtain ⟨taken, placement, present, placed, held, finds⟩ := finds_of_mem_hitsAt member
    obtain rfl := Option.some.inj ((getElem?_ofRule ruled).symm.trans present)
    have hits : hitsAt (placements contract headings) slot = placement.hits :=
      hitsAt_eq_of_getElem? placed
    rw [hits] at later adjacent
    rcases finds.deeper_or_mem held later after before found with deeper | own
    · exact deeper
    · exact absurd (adjacent other own after) (Nat.not_le.mpr before)
  nested slot position parent rule member parentOf ruled := by
    obtain ⟨taken, placement, _, _, held, finds⟩ := finds_of_mem_hitsAt member
    have window := finds.inWindow held
    rw [map_level_ofRule] at window
    obtain ⟨last, final, head, opened, after, _, deeper⟩ := window.below parent parentOf
    refine ⟨last, final, after, ?_⟩
    intro other heading behind found shallow
    apply Nat.not_le.mp
    intro reached
    -- The section's heading has the level of the parent's rule, since it stands in its slot.
    have level : head.level = rule.level := by
      obtain ⟨_, _, present, _, own, finder⟩ := finds_of_mem_hitsAt (List.mem_of_getLast? final)
      obtain ⟨_, located, accepted⟩ := finder.fits own
      obtain rfl := Option.some.inj ((getElem?_ofRule ruled).symm.trans present)
      obtain rfl := Option.some.inj (opened.symm.trans located)
      exact (accepts_ofRule_iff.mp accepted).1
    have inner := deeper other heading behind reached found
    rw [level] at inner
    exact absurd shallow (UInt8.not_le.mpr inner)

end Outline

end DocContract
