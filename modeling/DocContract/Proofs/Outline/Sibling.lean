import DocContract.Proofs.Outline.Scoping

/-!
What a rule leaves to its next sibling: it takes no further heading that this admits, so the sibling
finds its own.  The siblings behind the next one are not looked at.
-/

namespace DocContract.Outline

section

variable {slots : List Slot} {headings : List Heading} {placements : List Placement}
variable {slot : Slot} {placement : Placement} {heading : Heading}
variable {index next first position : Nat}

theorem Finds.first_le (finds : Finds slots headings placements index slot placement)
    (start : placement.hits.head? = some first) (member : position ∈ placement.hits) :
    first ≤ position := by
  have ordered := finds.pairwise
  obtain ⟨more, hits⟩ := List.head?_eq_some_iff.mp start
  rw [hits] at member ordered
  rcases List.mem_cons.mp member with rfl | further
  · exact Nat.le_refl _
  · exact Nat.le_of_lt (List.rel_of_pairwise_cons ordered further)

/-- The further headings of a slot are those in its window that it need not leave to its sibling, as
long as none in between has ended the search. -/
theorem Finds.mem_hits_iff (finds : Finds slots headings placements index slot placement)
    (start : placement.hits.head? = some first) (after : first < position) :
    position ∈ placement.hits ↔
      InWindow (slots.map (·.level)) headings placements index position ∧
        (∃ heading, headings[position]? = some heading ∧
          slot.Repeats (siblingAfter? slots index) heading) ∧
        ∀ other inner, first < other → other < position → headings[other]? = some inner →
          slot.Passes (siblingAfter? slots index) inner := by
  cases finds with
  | skipped _ => cases start
  | missing _ _ _ => cases start
  | found own stop _ _ _ _ bounded =>
    obtain rfl : own = first := by simpa [Placement.hits] using start
    rw [Placement.hits, List.mem_cons, or_iff_right (Nat.ne_of_gt after), mem_furtherHits_iff,
      ← bounded position after]
    constructor
    · rintro ⟨_, before, taken, passed⟩
      exact ⟨before, taken, passed⟩
    · rintro ⟨before, taken, passed⟩
      exact ⟨after, before, taken, passed⟩

/-- All headings of a slot stand before one behind its first that its sibling accepts. -/
theorem Finds.hits_lt (finds : Finds slots headings placements index slot placement)
    (start : placement.hits.head? = some first) (after : first < position)
    (present : headings[position]? = some heading) (level : heading.level = slot.level)
    {sibling : Slot} (follows : siblingAfter? slots index = some sibling)
    (wanted : sibling.accepts heading = true) {hit : Nat} (member : hit ∈ placement.hits) :
    hit < position := by
  have left : ¬ slot.Repeats (siblingAfter? slots index) heading := by
    intro repeated
    rw [repeated.2 sibling follows] at wanted
    cases wanted
  apply Nat.lt_of_not_le
  intro reached
  obtain ⟨_, ⟨same, again, repeated⟩, passed⟩ :=
    (finds.mem_hits_iff start (Nat.lt_of_lt_of_le after reached)).mp member
  rcases Nat.eq_or_lt_of_le reached with rfl | before
  · obtain rfl := Option.some.inj (present.symm.trans again)
    exact left repeated
  · rcases passed position heading after before present with deeper | repeats
    · exact UInt8.ne_of_lt deeper level.symm
    · exact left repeats

theorem hits_lt_of_parent {parent hit : Nat}
    (parentOf : Hierarchy.parent? (slots.map (·.level)) index = some parent)
    (present : headings[position]? = some heading)
    (shallow : heading.level ≤ Hierarchy.levelAt (slots.map (·.level)) parent)
    (passed : ∀ other ∈ hitsAt (place slots headings) parent, other < position)
    (member : hit ∈ hitsAt (place slots headings) index) : hit < position := by
  obtain ⟨_, _, _, _, held, finds⟩ := finds_of_mem_hitsAt member
  obtain ⟨opener, last, head, opened, _, _, deeper⟩ :=
    (finds.inWindow held).below parent parentOf
  have own := List.mem_of_getLast? last
  obtain ⟨above, _, found, _, holds, finder⟩ := finds_of_mem_hitsAt own
  obtain ⟨same, again, accepted⟩ := finder.fits holds
  obtain rfl := Option.some.inj (opened.symm.trans again)
  rw [Hierarchy.levelAt_map found, ← Slot.level_of_accepts accepted] at shallow
  apply Nat.lt_of_not_le
  intro reached
  exact absurd (deeper position heading (passed opener own) reached present)
    (UInt8.not_lt.mpr shallow)

theorem hits_lt_of_between (present : headings[position]? = some heading)
    (shallow : heading.level ≤ Hierarchy.levelAt (slots.map (·.level)) index)
    (passed : ∀ hit ∈ hitsAt (place slots headings) index, hit < position)
    (deeper : ∀ other, index < other → other < next →
      Hierarchy.levelAt (slots.map (·.level)) index <
        Hierarchy.levelAt (slots.map (·.level)) other)
    {other : Nat} (after : index ≤ other) (before : other < next) :
    ∀ hit ∈ hitsAt (place slots headings) other, hit < position := by
  induction other using Nat.strongRecOn with
  | ind other ih =>
    rcases Nat.eq_or_lt_of_le after with rfl | behind
    · exact passed
    · intro hit member
      obtain ⟨parent, parentOf, late⟩ :=
        Hierarchy.exists_parent?_le behind (deeper other behind before)
      have above := (Hierarchy.parent?_eq_some_iff.mp parentOf).1
      have bounded : Hierarchy.levelAt (slots.map (·.level)) index ≤
          Hierarchy.levelAt (slots.map (·.level)) parent := by
        rcases Nat.eq_or_lt_of_le late with rfl | under
        · exact UInt8.le_refl _
        · exact UInt8.le_of_lt (deeper parent under (Nat.lt_trans above before))
      exact hits_lt_of_parent parentOf present (UInt8.le_trans shallow bounded)
        (ih parent above late (Nat.lt_trans above before)) member

/-- The window of the next sibling reaches each heading in that of a slot that it accepts, if this
is behind the slot's first. -/
theorem inWindow_sibling
    (finds : Finds slots headings (place slots headings) index slot placement)
    (placed : (place slots headings)[index]? = some placement)
    (found : slots[index]? = some slot) (start : placement.hits.head? = some first)
    (follows : Hierarchy.nextSibling? (slots.map (·.level)) index = some next)
    {sibling : Slot} (followed : slots[next]? = some sibling) (after : first < position)
    (inside : InWindow (slots.map (·.level)) headings (place slots headings) index position)
    (present : headings[position]? = some heading) (wanted : sibling.accepts heading = true) :
    InWindow (slots.map (·.level)) headings (place slots headings) next position := by
  obtain ⟨behind, _, same, deeper⟩ := Hierarchy.nextSibling?_eq_some_iff.mp follows
  have level : heading.level = slot.level := by
    rw [Hierarchy.levelAt_map followed, Hierarchy.levelAt_map found] at same
    rw [Slot.level_of_accepts wanted, same]
  have passed : ∀ hit ∈ hitsAt (place slots headings) index, hit < position := by
    rw [hitsAt_eq_of_getElem? placed]
    intro hit member
    exact finds.hits_lt start after present level (by simp [siblingAfter?, follows, followed])
      wanted member
  refine ⟨inside.inside, ?_, ?_⟩
  · intro other before
    rcases Nat.lt_or_ge other index with early | late
    · exact inside.behind other early
    · refine hits_lt_of_between present ?_ passed deeper late before
      rw [Hierarchy.levelAt_map found, level]
      exact UInt8.le_refl _
  · intro parent parentOf
    rw [Hierarchy.parent?_eq_of_between behind same fun other later before =>
      UInt8.le_of_lt (deeper other later before)] at parentOf
    exact inside.below parent parentOf

end

section

variable {contract : Contract} {headings : List Heading} {rule sibling : HeadingRule}
variable {slot next first position : Nat} {heading : Heading}

/-- A slot leaves its headings to the slot of the rule that follows in the family of its own. -/
theorem siblingAfter?_ofRule
    (follows : Hierarchy.FollowsInFamily (contract.headings.map (·.level)) slot next)
    (followed : contract.headings[next]? = some sibling) :
    siblingAfter? (contract.headings.map Slot.ofRule) slot = some (Slot.ofRule sibling) := by
  rw [siblingAfter?, map_level_ofRule, Hierarchy.nextSibling?_eq_some_iff_follows.mpr follows,
    Option.bind_some, getElem?_ofRule followed]

/-- A heading that the next sibling does not admit need not be left to it. -/
theorem repeats_ofRule (admitted : rule.Admits heading)
    (free : ∀ next sibling, Hierarchy.FollowsInFamily (contract.headings.map (·.level)) slot next →
      contract.headings[next]? = some sibling → ¬ sibling.Admits heading) :
    (Slot.ofRule rule).Repeats (siblingAfter? (contract.headings.map Slot.ofRule) slot)
      heading := by
  refine ⟨accepts_ofRule_iff.mpr admitted, ?_⟩
  intro other member
  obtain ⟨next, follows, found⟩ := Option.bind_eq_some_iff.mp member
  rw [map_level_ofRule, Hierarchy.nextSibling?_eq_some_iff_follows] at follows
  obtain ⟨sibling, followed, rfl⟩ : ∃ sibling, contract.headings[next]? = some sibling ∧
      Slot.ofRule sibling = other := by simpa using found
  exact Bool.eq_false_iff.mpr (mt accepts_ofRule_iff.mp (free next sibling follows followed))

end

/-- A rule leaves to its next sibling what this admits: its further headings are none of these, and
a heading for the sibling that stands behind the rule's first one, in the window of the rule, is not
reported as missing. -/
theorem repetition_yields_to_next_sibling (path : String) (contract : Contract)
    (headings : List Heading) (slot next first : Nat) (sibling : HeadingRule)
    (matched : (hitsAt (placements contract headings) slot).head? = some first)
    (follows : Hierarchy.FollowsInFamily (contract.headings.map (·.level)) slot next)
    (followed : contract.headings[next]? = some sibling) :
    (∀ position heading, position ∈ hitsAt (placements contract headings) slot →
      position ≠ first → headings[position]? = some heading → ¬ sibling.Admits heading) ∧
    ∀ position heading, first < position →
      InWindow (contract.headings.map (·.level)) headings (placements contract headings) slot
        position →
      headings[position]? = some heading → sibling.Admits heading →
      (∃ hit ≤ position, (hitsAt (placements contract headings) next).head? = some hit) ∧
        countCode .headingMissing (issuesAt path contract headings next) = 0 := by
  have member := List.mem_of_mem_head? matched
  obtain ⟨taken, placement, found, placed, _, finds⟩ := finds_of_mem_hitsAt member
  have hits : hitsAt (placements contract headings) slot = placement.hits :=
    hitsAt_eq_of_getElem? placed
  rw [hits] at matched ⊢
  constructor
  · intro position heading held further present admitted
    have after : first < position :=
      Nat.lt_of_le_of_ne (finds.first_le matched held) (Ne.symm further)
    obtain ⟨_, ⟨same, again, repeated⟩, _⟩ := (finds.mem_hits_iff matched after).mp held
    obtain rfl := Option.some.inj (present.symm.trans again)
    have refused := repeated.2 _ (siblingAfter?_ofRule follows followed)
    rw [accepts_ofRule_iff.mpr admitted] at refused
    cases refused
  · intro position heading after inside present admitted
    have window : InWindow (contract.headings.map (·.level)) headings
        (placements contract headings) next position := by
      rw [← map_level_ofRule] at inside ⊢
      refine inWindow_sibling finds placed found matched ?_ (getElem?_ofRule followed) after inside
        present (accepts_ofRule_iff.mpr admitted)
      rw [map_level_ofRule]
      exact Hierarchy.nextSibling?_eq_some_iff_follows.mpr follows
    have eligible : Eligible contract headings next sibling position :=
      ⟨window, heading, present, admitted⟩
    rcases search_cases path headings followed with ⟨⟨parent, parentOf, empty⟩, _⟩ |
        ⟨_, ⟨unfit, _⟩ | ⟨hit, start, _, earliest, none⟩⟩
    · obtain ⟨opener, last, _⟩ := window.below parent parentOf
      rw [empty] at last
      cases last
    · exact absurd eligible (unfit position)
    · exact ⟨⟨hit, earliest position eligible, start⟩, none⟩

def introRule : HeadingRule :=
  ⟨"intro", 2, none, none, true, .allowed, .allowed, none, none⟩

def scopeRule : HeadingRule :=
  ⟨"scope", 2, some "Scope", none, true, .allowed, .allowed, none, none⟩

/-- The scope comes behind any headings with any details. -/
def introContract : Contract where
  name := "PRD"
  description := none
  headings := [introRule, ⟨"detail", 3, none, none, false, .allowed, .allowed, none, none⟩,
    scopeRule]
  definedIds := ∅

def introOutline : List Heading := [
  ⟨1, 2, "Purpose", false, []⟩, ⟨3, 2, "History", false, []⟩, ⟨5, 3, "Authors", false, []⟩,
  ⟨7, 2, "Scope", false, []⟩]

/-- The rule for any headings takes two and leaves the third to the next rule. -/
theorem intro_yields_to_scope :
    hitsAt (placements introContract introOutline) 0 = [0, 1] ∧
      ¬ scopeRule.Admits ⟨3, 2, "History", false, []⟩ ∧
      (∃ hit ≤ 3, (hitsAt (placements introContract introOutline) 2).head? = some hit) ∧
      countCode .headingMissing (issuesAt "docs/PRD.md" introContract introOutline 2) = 0 := by
  have hits : hitsAt (placements introContract introOutline) 0 = [0, 1] := by decide +kernel
  have follows : Hierarchy.nextSibling? (introContract.headings.map (·.level)) 0 = some 2 := by
    decide
  have window : InWindow (introContract.headings.map (·.level)) introOutline
      (placements introContract introOutline) 0 3 :=
    inWindow_zero (by decide)
  obtain ⟨refused, reached⟩ := repetition_yields_to_next_sibling "docs/PRD.md" introContract
    introOutline 0 2 0 scopeRule (by rw [hits]; rfl)
    (Hierarchy.nextSibling?_eq_some_iff_follows.mp follows) rfl
  obtain ⟨start, none⟩ := reached 3 _ (by decide) window rfl (by decide +kernel)
  exact ⟨hits, refused 1 _ (by simp [hits]) (by decide) rfl, start, none⟩

/-- Between any headings and the scope there may be notes. -/
def notesContract : Contract where
  name := "PRD"
  description := none
  headings := [introRule, ⟨"notes", 2, some "Notes", none, false, .allowed, .allowed, none, none⟩,
    scopeRule]
  definedIds := ∅

def notesOutline : List Heading := [
  ⟨1, 2, "Purpose", false, []⟩, ⟨3, 2, "Scope", false, []⟩]

/-- A rule does not leave anything to the siblings behind the next one: without notes, the rule for
any headings takes the one for the scope, which is then missing. -/
theorem intro_takes_scope_without_notes :
    Hierarchy.family (notesContract.headings.map (·.level)) 2 =
        Hierarchy.family (notesContract.headings.map (·.level)) 0 ∧
      hitsAt (placements notesContract notesOutline) 0 = [0, 1] ∧
      scopeRule.Admits ⟨3, 2, "Scope", false, []⟩ ∧
      countCode .headingMissing (issuesAt "docs/PRD.md" notesContract notesOutline 2) = 1 := by
  decide +kernel

/-- A rule that wants several headings is content with the next one of its level in its window if
this can stand for it and not for its next sibling. -/
theorem repetition_takes_next_heading (path : String) (contract : Contract)
    (headings : List Heading) (slot first position : Nat) (rule : HeadingRule) (heading : Heading)
    (ruled : contract.headings[slot]? = some rule)
    (matched : (hitsAt (placements contract headings) slot).head? = some first)
    (after : first < position)
    (inside : InWindow (contract.headings.map (·.level)) headings (placements contract headings)
      slot position)
    (deeper : ∀ (other : Nat) (inner : Heading), first < other → other < position →
      headings[other]? = some inner → rule.level < inner.level)
    (present : headings[position]? = some heading) (admitted : rule.Admits heading)
    (free : ∀ next sibling, Hierarchy.FollowsInFamily (contract.headings.map (·.level)) slot next →
      contract.headings[next]? = some sibling → ¬ sibling.Admits heading) :
    position ∈ hitsAt (placements contract headings) slot ∧
      countCode .headingRequiresMultiple (issuesAt path contract headings slot) = 0 := by
  obtain ⟨placement, placed, finds⟩ := place_finds headings (getElem?_ofRule ruled)
  have hits : hitsAt (placements contract headings) slot = placement.hits :=
    hitsAt_eq_of_getElem? placed
  rw [hits] at matched ⊢
  rw [← map_level_ofRule] at inside
  have member : position ∈ placement.hits := by
    refine (finds.mem_hits_iff matched after).mpr
      ⟨inside, ⟨heading, present, repeats_ofRule admitted free⟩, ?_⟩
    intro other inner behind before located
    exact .inl (deeper other inner behind before located)
  refine ⟨member, ?_⟩
  rw [issuesAt_eq ruled placed, countCode_headingRequiresMultiple]
  cases placement with
  | skipped => cases matched
  | missing parent => cases matched
  | found own more =>
    cases more with
    | nil =>
      obtain rfl : own = first := by simpa [Placement.hits] using matched
      exact absurd (List.mem_singleton.mp member) (Nat.ne_of_gt after)
    | cons further more => cases rule.multiple <;> rfl

def optionRule : HeadingRule :=
  ⟨"option", 2, some "^Option \\w+$", none, true, .required, .allowed, none, none⟩

/-- Several options, then headings with the pattern of the sibling if it has one. -/
def optionContract (pattern : Option String) : Contract where
  name := "ADR"
  description := none
  headings := [optionRule, ⟨"choice", 2, pattern, none, false, .allowed, .allowed, none, none⟩]
  definedIds := ∅

def optionOutline : List Heading := [
  ⟨1, 2, "Option A", false, []⟩, ⟨3, 3, "Costs", false, []⟩, ⟨5, 2, "Option B", false, []⟩]

/-- Two options are several if the sibling wants another title. -/
theorem option_counts_next_option :
    2 ∈ hitsAt (placements (optionContract (some "Choice")) optionOutline) 0 ∧
      countCode .headingRequiresMultiple
        (issuesAt "docs/ADR.md" (optionContract (some "Choice")) optionOutline 0) = 0 := by
  refine repetition_takes_next_heading "docs/ADR.md" (optionContract (some "Choice")) optionOutline
    0 0 2 optionRule ⟨5, 2, "Option B", false, []⟩ rfl (by decide +kernel) (by decide)
    (inWindow_zero (by decide)) ?_ rfl
    (by decide +kernel) ?_
  · intro other inner behind before located
    obtain rfl : other = 1 := by omega
    obtain rfl := Option.some.inj located
    decide
  · intro next sibling follows followed
    have second : Hierarchy.nextSibling? ((optionContract (some "Choice")).headings.map (·.level))
        0 = some 1 := by
      decide
    obtain rfl := Option.some.inj
      (second.symm.trans (Hierarchy.nextSibling?_eq_some_iff_follows.mpr follows))
    obtain rfl := Option.some.inj followed
    decide +kernel

/-- With that pattern for the sibling, the first option is taken alone and reported as too few,
though the second one is in the window of the rule and can stand for it. -/
def LeavesNextOption (pattern : Option String) : Prop :=
  hitsAt (placements (optionContract pattern) optionOutline) 0 = [0] ∧
    InWindow ((optionContract pattern).headings.map (·.level)) optionOutline
      (placements (optionContract pattern) optionOutline) 0 2 ∧
    optionRule.Admits ⟨5, 2, "Option B", false, []⟩ ∧
    countCode .headingRequiresMultiple
      (issuesAt "docs/ADR.md" (optionContract pattern) optionOutline 0) = 1

/-- The second option is left to a sibling that may have it as well, with or without a pattern. -/
theorem next_option_left_to_sibling :
    LeavesNextOption (some "Option B") ∧ LeavesNextOption none := by
  have admitted : optionRule.Admits ⟨5, 2, "Option B", false, []⟩ := by decide +kernel
  have inside (pattern : Option String) :
      InWindow ((optionContract pattern).headings.map (·.level)) optionOutline
        (placements (optionContract pattern) optionOutline) 0 2 :=
    inWindow_zero (by decide)
  exact ⟨⟨by decide +kernel, inside _, admitted, by decide +kernel⟩,
    ⟨by decide +kernel, inside _, admitted, by decide +kernel⟩⟩

end DocContract.Outline
