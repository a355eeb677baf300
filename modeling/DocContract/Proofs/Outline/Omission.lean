import DocContract.Proofs.Outline.Issues
import DocContract.Proofs.Outline.Soundness

/-!
Outlines in which some of the rules have no heading.  As long as nothing stands under a rule that is
left out, and no rule admits the heading of another, each heading is taken as it is meant.
-/

namespace DocContract.Outline

/-- The headings are there for some of the slots, one for each and in the order of the slots; `kept`
are the positions of these.  A slot accepts its own heading only, and the parents of kept slots are
kept as well. -/
structure Selects (slots : List Slot) (headings : List Heading) (kept : List Nat) : Prop where
  increasing : kept.Pairwise (· < ·)
  bounded : ∀ index ∈ kept, index < slots.length
  closed : ∀ index ∈ kept, ∀ parent,
    Hierarchy.parent? (slots.map (·.level)) index = some parent → parent ∈ kept
  size : headings.length = kept.length
  fits_iff : ∀ (index : Nat) (slot : Slot) (position : Nat), slots[index]? = some slot →
    (slot.Fits headings position ↔ kept[position]? = some index)

section

variable {slots : List Slot} {headings : List Heading} {kept : List Nat} {slot : Slot}
variable {index other position behind opener parent : Nat}

theorem Selects.lt_of_lt (selects : Selects slots headings kept)
    (held : kept[position]? = some index) (later : kept[behind]? = some other)
    (before : position < behind) : index < other := by
  obtain ⟨_, rfl⟩ := List.getElem?_eq_some_iff.mp held
  obtain ⟨_, rfl⟩ := List.getElem?_eq_some_iff.mp later
  exact List.pairwise_iff_getElem.mp selects.increasing position behind _ _ before

theorem Selects.le_of_le (selects : Selects slots headings kept)
    (held : kept[position]? = some index) (later : kept[behind]? = some other)
    (before : index ≤ other) : position ≤ behind := by
  apply Nat.le_of_not_lt
  intro after
  exact absurd (selects.lt_of_lt later held after) (Nat.not_lt.mpr before)

theorem Selects.position_lt (selects : Selects slots headings kept)
    (held : kept[position]? = some index) (later : kept[behind]? = some other)
    (before : index < other) : position < behind := by
  apply Nat.lt_of_le_of_ne (selects.le_of_le held later (Nat.le_of_lt before))
  rintro rfl
  exact Nat.ne_of_lt before (Option.some.inj (held.symm.trans later))

theorem Selects.position_unique (selects : Selects slots headings kept)
    (held : kept[position]? = some index) (again : kept[behind]? = some index) :
    position = behind :=
  Nat.le_antisymm (selects.le_of_le held again (Nat.le_refl _))
    (selects.le_of_le again held (Nat.le_refl _))

theorem Selects.heading (selects : Selects slots headings kept)
    (held : kept[position]? = some index) :
    ∃ heading, headings[position]? = some heading ∧
      Hierarchy.levelAt (slots.map (·.level)) index = heading.level := by
  have found := List.getElem?_eq_getElem (selects.bounded index (List.mem_of_getElem? held))
  obtain ⟨heading, present, accepted⟩ := (selects.fits_iff index _ position found).mpr held
  exact ⟨heading, present, by rw [Hierarchy.levelAt_map found, Slot.level_of_accepts accepted]⟩

theorem Selects.inSection (selects : Selects slots headings kept)
    (held : kept[position]? = some index) (opened : kept[opener]? = some parent)
    (parentOf : Hierarchy.parent? (slots.map (·.level)) index = some parent) :
    InSection headings opener position := by
  obtain ⟨above, lesser, nearest⟩ := Hierarchy.parent?_eq_some_iff.mp parentOf
  obtain ⟨head, start, top⟩ := selects.heading opened
  obtain ⟨own, present, _⟩ := selects.heading held
  refine ⟨head, start, selects.position_lt opened held above,
    (List.getElem?_eq_some_iff.mp present).1, ?_⟩
  intro between inner after reached located
  have inside := (List.getElem?_eq_some_iff.mp located).1
  have middle := List.getElem?_eq_getElem (selects.size ▸ inside)
  obtain ⟨same, again, level⟩ := selects.heading middle
  obtain rfl := Option.some.inj (located.symm.trans again)
  rw [← top, ← level]
  rcases Nat.eq_or_lt_of_le reached with rfl | ahead
  · rwa [Option.some.inj (middle.symm.trans held)]
  · -- The heading in between is there for a slot between the two, and that is not above the later.
    exact UInt8.lt_of_lt_of_le lesser (nearest _ (selects.lt_of_lt opened middle after)
      (selects.lt_of_lt middle held ahead))

theorem Selects.held_of_mem_hitsAt (selects : Selects slots headings kept)
    (member : position ∈ hitsAt (place slots headings) index) : kept[position]? = some index := by
  obtain ⟨slot, placement, found, _, hit, finds⟩ := finds_of_mem_hitsAt member
  exact (selects.fits_iff index slot position found).mp (finds.fits hit)

/-- The window of a kept slot is open at its heading if the kept slots before it have theirs. -/
theorem Selects.inWindow (selects : Selects slots headings kept)
    (held : kept[position]? = some index)
    (earlier : ∀ other < index, ∀ behind, kept[behind]? = some other →
      hitsAt (place slots headings) other = [behind]) :
    InWindow (slots.map (·.level)) headings (place slots headings) index position := by
  obtain ⟨_, present, _⟩ := selects.heading held
  refine ⟨(List.getElem?_eq_some_iff.mp present).1, ?_, ?_⟩
  · intro other before hit member
    exact selects.position_lt (selects.held_of_mem_hitsAt member) held before
  · intro parent parentOf
    have above := (Hierarchy.parent?_eq_some_iff.mp parentOf).1
    obtain ⟨opener, opened⟩ := List.mem_iff_getElem?.mp
      (selects.closed index (List.mem_of_getElem? held) parent parentOf)
    refine ⟨opener, ?_, selects.inSection held opened parentOf⟩
    rw [earlier parent above opener opened, List.getLast?_singleton]

private theorem eq_found_singleton {first : Nat} {more : List Nat}
    (ordered : (first :: more).Pairwise (· < ·)) (only : ∀ hit ∈ first :: more, hit = position) :
    Placement.found first more = .found position [] := by
  obtain rfl := only first List.mem_cons_self
  cases more with
  | nil => rfl
  | cons next more =>
    have after := List.rel_of_pairwise_cons ordered List.mem_cons_self
    rw [only next (by simp)] at after
    exact absurd after (Nat.lt_irrefl _)

/-- One step: a kept slot finds its own heading alone if the kept ones before it have done so. -/
theorem Selects.found_step (selects : Selects slots headings kept)
    (held : kept[position]? = some index)
    (earlier : ∀ other < index, ∀ behind, kept[behind]? = some other →
      hitsAt (place slots headings) other = [behind]) :
    (place slots headings)[index]? = some (.found position []) := by
  have found := List.getElem?_eq_getElem (selects.bounded index (List.mem_of_getElem? held))
  obtain ⟨placement, placed, finds⟩ := place_finds headings found
  have opened := selects.inWindow held earlier
  have only (hit : Nat) (member : hit ∈ placement.hits) : hit = position :=
    selects.position_unique ((selects.fits_iff index _ hit found).mp (finds.fits member)) held
  have ordered := finds.pairwise
  rw [placed]
  cases finds with
  | skipped orphan =>
    obtain ⟨parent, parentOf, empty⟩ := orphan
    obtain ⟨opener, last, _⟩ := opened.below parent parentOf
    rw [empty] at last
    cases last
  | missing _ _ unfit =>
    exact absurd ((selects.fits_iff index _ position found).mpr held) (unfit position opened)
  | found first stop _ _ _ _ _ => rw [eq_found_singleton ordered only]

theorem Selects.found (selects : Selects slots headings kept)
    (held : kept[position]? = some index) :
    (place slots headings)[index]? = some (.found position []) := by
  induction index using Nat.strongRecOn generalizing position with
  | ind index ih =>
    refine selects.found_step held ?_
    intro other before behind later
    rw [hitsAt_eq_of_getElem? (ih other before later)]
    rfl

theorem Selects.hitsAt_kept (selects : Selects slots headings kept)
    (held : kept[position]? = some index) : hitsAt (place slots headings) index = [position] :=
  hitsAt_eq_of_getElem? (selects.found held)

theorem Selects.hitsAt_omitted (selects : Selects slots headings kept) (omitted : index ∉ kept) :
    hitsAt (place slots headings) index = [] := by
  apply List.eq_nil_iff_forall_not_mem.mpr
  intro hit member
  exact omitted (List.mem_of_getElem? (selects.held_of_mem_hitsAt member))

end

/-- The headings are there for some of the rules, one for each and in the order of the rules; `kept`
are the positions of these. -/
structure Abridges (contract : Contract) (headings : List Heading) (kept : List Nat) : Prop where
  increasing : kept.Pairwise (· < ·)
  /-- What a kept rule stands under is kept. -/
  closed : ∀ slot ∈ kept, ∀ parent,
    Hierarchy.parent? (contract.headings.map (·.level)) slot = some parent → parent ∈ kept
  /-- A required rule is kept unless it stands under one that is not. -/
  required : ∀ (slot : Nat) (rule : HeadingRule), contract.headings[slot]? = some rule →
    rule.required = true →
    (∀ parent, Hierarchy.parent? (contract.headings.map (·.level)) slot = some parent →
      parent ∈ kept) → slot ∈ kept
  size : headings.length = kept.length
  admitted : ∀ (position slot : Nat) (heading : Heading), kept[position]? = some slot →
    headings[position]? = some heading →
    ∃ rule, contract.headings[slot]? = some rule ∧ rule.Admits heading
  /-- No rule, kept or not, admits the heading that is there for another one. -/
  distinct : ∀ (position slot other : Nat) (heading : Heading) (rule : HeadingRule),
    kept[position]? = some slot → headings[position]? = some heading →
    contract.headings[other]? = some rule → rule.Admits heading → other = slot

section

variable {path : String} {contract : Contract} {headings : List Heading} {kept : List Nat}
variable {slot : Nat} {rule : HeadingRule} {placement : Placement}

theorem Abridges.selects (abridges : Abridges contract headings kept) :
    Selects (contract.headings.map Slot.ofRule) headings kept where
  increasing := abridges.increasing
  bounded slot member := by
    obtain ⟨position, held⟩ := List.mem_iff_getElem?.mp member
    have inside := (List.getElem?_eq_some_iff.mp held).1
    obtain ⟨_, ruled, _⟩ := abridges.admitted position slot _ held
      (List.getElem?_eq_getElem (abridges.size ▸ inside))
    simpa using (List.getElem?_eq_some_iff.mp ruled).1
  closed := by
    rw [map_level_ofRule]
    exact abridges.closed
  size := abridges.size
  fits_iff index slot position found := by
    obtain ⟨rule, ruled, rfl⟩ : ∃ rule, contract.headings[index]? = some rule ∧
        Slot.ofRule rule = slot := by simpa using found
    constructor
    · rintro ⟨heading, present, accepted⟩
      have inside := (List.getElem?_eq_some_iff.mp present).1
      have held := List.getElem?_eq_getElem (abridges.size ▸ inside)
      rw [held, abridges.distinct position _ index heading rule held present ruled
        (accepts_ofRule_iff.mp accepted)]
    · intro held
      have inside := (List.getElem?_eq_some_iff.mp held).1
      have present := List.getElem?_eq_getElem (abridges.size ▸ inside)
      obtain ⟨same, again, admitted⟩ := abridges.admitted position index _ held present
      obtain rfl := Option.some.inj (ruled.symm.trans again)
      exact ⟨_, present, accepts_ofRule_iff.mpr admitted⟩

theorem Abridges.countCode_headingMissing (abridges : Abridges contract headings kept)
    (ruled : contract.headings[slot]? = some rule) :
    countCode .headingMissing (issuesAt path contract headings slot) = 0 := by
  obtain ⟨placement, placed, finds⟩ := place_finds headings (getElem?_ofRule ruled)
  rw [issuesAt_eq ruled placed, Outline.countCode_headingMissing]
  cases finds with
  | skipped _ => rfl
  | found _ _ _ _ _ _ _ => rfl
  | missing parent adopted _ =>
    have omitted : slot ∉ kept := by
      intro member
      obtain ⟨position, held⟩ := List.mem_iff_getElem?.mp member
      cases (abridges.selects.found held).symm.trans placed
    have optional : ¬ rule.required = true := by
      intro required
      refine omitted (abridges.required slot rule ruled required ?_)
      intro parent parentOf
      apply Decidable.byContradiction
      intro absent
      exact adopted ⟨parent, by rwa [map_level_ofRule],
        abridges.selects.hitsAt_omitted absent⟩
    simp [optional]

theorem Abridges.countCode_headingProhibitsMultiple (abridges : Abridges contract headings kept)
    (ruled : contract.headings[slot]? = some rule) :
    countCode .headingProhibitsMultiple (issuesAt path contract headings slot) = 0 := by
  obtain ⟨placement, placed, finds⟩ := place_finds headings (getElem?_ofRule ruled)
  rw [issuesAt_eq ruled placed, Outline.countCode_headingProhibitsMultiple]
  by_cases member : slot ∈ kept
  · obtain ⟨position, held⟩ := List.mem_iff_getElem?.mp member
    obtain rfl := Option.some.inj ((abridges.selects.found held).symm.trans placed)
    cases rule.multiple <;> rfl
  · have empty : placement.hits = [] := by
      rw [← hitsAt_eq_of_getElem? placed]
      exact abridges.selects.hitsAt_omitted member
    cases placement with
    | found first more => cases empty
    | missing parent => cases rule.multiple <;> rfl
    | skipped => cases rule.multiple <;> rfl

end

/-- Rules may be left out of an outline together with all that stands under them, if no required one
is left out under a rule that stays: each heading is still taken for its own rule and no heading is
reported as missing or as one too many. -/
theorem check_abridged_outline (path : String) (contract : Contract) (headings : List Heading)
    (kept : List Nat) (abridges : Abridges contract headings kept) :
    (∀ position slot, kept[position]? = some slot →
      hitsAt (placements contract headings) slot = [position] ∧
        slotOf? (placements contract headings) position = some slot) ∧
      (∀ slot, slot ∉ kept → hitsAt (placements contract headings) slot = []) ∧
      countCode .headingMissing (check path contract headings).issues = 0 ∧
      countCode .headingProhibitsMultiple (check path contract headings).issues = 0 := by
  have alone (position slot : Nat) (held : kept[position]? = some slot) :
      hitsAt (placements contract headings) slot = [position] :=
    abridges.selects.hitsAt_kept held
  refine ⟨?_, ?_, ?_, ?_⟩
  · intro position slot held
    refine ⟨alone position slot held, slotOf?_eq_some_iff.mpr ?_⟩
    show position ∈ hitsAt (placements contract headings) slot
    rw [alone position slot held]
    exact List.mem_singleton_self position
  · intro slot omitted
    exact abridges.selects.hitsAt_omitted omitted
  · apply countCode_check_eq_zero (by simp)
    intro slot rule ruled
    exact abridges.countCode_headingMissing ruled
  · apply countCode_check_eq_zero (by simp)
    intro slot rule ruled
    exact abridges.countCode_headingProhibitsMultiple ruled

/-- Risks and notes may be left out; who owns the risks must be said only where there are any. -/
def optionalContract : Contract where
  name := "PRD"
  description := none
  headings := [
    ⟨"scope", 2, some "Scope", none, true, .allowed, .allowed, none, none⟩,
    ⟨"risks", 2, some "Risks", none, false, .allowed, .allowed, none, none⟩,
    ⟨"owners", 3, some "Owners", none, true, .allowed, .allowed, none, none⟩,
    ⟨"goals", 2, some "^Goals?$", none, true, .prohibited, .allowed, none, none⟩,
    ⟨"goal", 3, none, none, true, .allowed, .allowed, none, none⟩,
    ⟨"notes", 2, some "Notes", none, false, .allowed, .allowed, none, none⟩]
  definedIds := ∅

def abridgedOutline : List Heading := [
  ⟨1, 2, "Scope", false, []⟩, ⟨3, 2, "2. Goal", true, [2]⟩, ⟨5, 3, "Low latency", false, []⟩]

theorem abridges_optionalContract : Abridges optionalContract abridgedOutline [0, 3, 4] where
  increasing := by decide
  closed := by decide
  required slot rule ruled := by
    have kept : ∀ entry ∈ optionalContract.headings.zipIdx, entry.1.required = true →
        (∀ parent ∈ Hierarchy.parent? (optionalContract.headings.map (·.level)) entry.2,
          parent ∈ [0, 3, 4]) → entry.2 ∈ [0, 3, 4] := by
      decide
    exact kept (rule, slot) (List.mem_zipIdx_iff_getElem?.mpr ruled)
  size := rfl
  admitted position slot heading held present := by
    have admits : ∀ entry ∈ [0, 3, 4].zip abridgedOutline,
        ∃ rule ∈ optionalContract.headings[entry.1]?, rule.Admits entry.2 := by
      decide +kernel
    exact admits (slot, heading)
      (List.mem_of_getElem? (List.getElem?_zip_eq_some.mpr ⟨held, present⟩))
  distinct position slot other heading rule held present ruled := by
    have apart : ∀ entry ∈ [0, 3, 4].zip abridgedOutline,
        ∀ other ∈ optionalContract.headings.zipIdx, other.1.Admits entry.2 →
          other.2 = entry.1 := by
      decide +kernel
    exact apart (slot, heading)
      (List.mem_of_getElem? (List.getElem?_zip_eq_some.mpr ⟨held, present⟩)) (rule, other)
      (List.mem_zipIdx_iff_getElem?.mpr ruled)

/-- Nothing is missing although the owners, which are required, have no heading. -/
theorem check_optionalContract :
    (∀ position slot, [0, 3, 4][position]? = some slot →
      hitsAt (placements optionalContract abridgedOutline) slot = [position] ∧
        slotOf? (placements optionalContract abridgedOutline) position = some slot) ∧
      (∀ slot, slot ∉ [0, 3, 4] →
        hitsAt (placements optionalContract abridgedOutline) slot = []) ∧
      countCode .headingMissing
        (check "docs/PRD.md" optionalContract abridgedOutline).issues = 0 ∧
      countCode .headingProhibitsMultiple
        (check "docs/PRD.md" optionalContract abridgedOutline).issues = 0 :=
  check_abridged_outline "docs/PRD.md" optionalContract abridgedOutline [0, 3, 4]
    abridges_optionalContract

end DocContract.Outline
