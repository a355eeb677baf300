import DocContract.Proofs.Outline.Issues
import Mathlib.Data.List.Forall2

namespace DocContract.Outline

variable {slots : List Slot} {headings : List Heading} {slot : Slot} {own : Nat → Nat}
variable {index position : Nat}

/-- Each slot has a heading of its own, behind those of the slots before it and inside the section
of that of its parent.  The slots accept no heading besides these. -/
structure Spread (slots : List Slot) (headings : List Heading) (own : Nat → Nat) : Prop where
  increasing : ∀ index other, index < other → other < slots.length → own index < own other
  fits : ∀ (index : Nat) (slot : Slot), slots[index]? = some slot → slot.Fits headings (own index)
  owned : ∀ (position : Nat) (slot : Slot), slot ∈ slots → slot.Fits headings position →
    ∃ index < slots.length, own index = position
  nested : ∀ index < slots.length, ∀ parent,
    Hierarchy.parent? (slots.map (·.level)) index = some parent →
    InSection headings (own parent) (own index)

theorem Spread.le_of_le (spread : Spread slots headings own) {other : Nat} (before : index ≤ other)
    (bound : other < slots.length) : own index ≤ own other := by
  rcases Nat.eq_or_lt_of_le before with rfl | earlier
  · exact Nat.le_refl _
  · exact Nat.le_of_lt (spread.increasing index other earlier bound)

/-- The order of the headings is that of their slots. -/
theorem Spread.lt_of_own_lt (spread : Spread slots headings own) {other : Nat}
    (bound : index < slots.length) (before : own index < own other) : index < other := by
  apply Nat.lt_of_not_le
  intro after
  exact absurd before (Nat.not_lt.mpr (spread.le_of_le after bound))

/-- The first heading behind that of a slot that is not deeper is there for the slot's sibling. -/
theorem Spread.sibling (spread : Spread slots headings own) (found : slots[index]? = some slot)
    (fits : slot.Fits headings position) (after : own index < position)
    (deeper : ∀ other inner, own index < other → other < position →
      headings[other]? = some inner → slot.level < inner.level) :
    ∃ sibling, siblingAfter? slots index = some sibling ∧ sibling.Fits headings position := by
  have bound := (List.getElem?_eq_some_iff.mp found).1
  obtain ⟨next, inside, rfl⟩ := spread.owned position slot (List.mem_of_getElem? found) fits
  have behind : index < next := spread.lt_of_own_lt bound after
  have held := List.getElem?_eq_getElem inside
  have ownFits := spread.fits next _ held
  have follows : Hierarchy.nextSibling? (slots.map (·.level)) index = some next := by
    refine Hierarchy.nextSibling?_eq_some_iff.mpr ⟨behind, by simpa using inside, ?_, ?_⟩
    · obtain ⟨heading, present, accepted⟩ := fits
      obtain ⟨same, again, wanted⟩ := ownFits
      obtain rfl := Option.some.inj (present.symm.trans again)
      rw [Hierarchy.levelAt_map held, Hierarchy.levelAt_map found,
        ← Slot.level_of_accepts wanted, Slot.level_of_accepts accepted]
    · intro other later before
      have located := List.getElem?_eq_getElem (Nat.lt_trans before inside)
      obtain ⟨inner, present, accepted⟩ := spread.fits other _ located
      rw [Hierarchy.levelAt_map found, Hierarchy.levelAt_map located,
        ← Slot.level_of_accepts accepted]
      exact deeper (own other) inner
        (spread.increasing index other later (Nat.lt_trans before inside))
        (spread.increasing other next before inside) present
  exact ⟨slots[next], by simp [siblingAfter?, follows, held], ownFits⟩

/-- A slot takes no further heading: the first that it could is there for its sibling. -/
theorem Spread.furtherHits_eq_nil (spread : Spread slots headings own)
    (found : slots[index]? = some slot) (stop : Nat) :
    furtherHits slot (siblingAfter? slots index) (between headings (own index + 1) stop) = [] := by
  cases further : furtherHits slot (siblingAfter? slots index)
      (between headings (own index + 1) stop) with
  | nil => rfl
  | cons next more =>
    have hit : FurtherHit slot (siblingAfter? slots index) headings (own index + 1) stop next :=
      mem_furtherHits_iff.mp (further ▸ List.mem_cons_self)
    obtain ⟨heading, located, repeated, free⟩ := hit.taken
    obtain ⟨sibling, follows, same, again, wanted⟩ := spread.sibling found
      ⟨heading, located, repeated⟩ hit.behind fun other inner behind before present =>
        deeper_of_furtherHits further behind before present
    obtain rfl := Option.some.inj (located.symm.trans again)
    have refused := free sibling follows
    rw [wanted] at refused
    cases refused

theorem Spread.inWindow (spread : Spread slots headings own) (found : slots[index]? = some slot)
    (earlier : ∀ other < index, hitsAt (place slots headings) other = [own other]) :
    InWindow (slots.map (·.level)) headings (place slots headings) index (own index) := by
  have bound := (List.getElem?_eq_some_iff.mp found).1
  obtain ⟨heading, present, _⟩ := spread.fits index slot found
  refine ⟨(List.getElem?_eq_some_iff.mp present).1, ?_, ?_⟩
  · intro other before hit member
    rw [earlier other before, List.mem_singleton] at member
    exact member ▸ spread.increasing other index before bound
  · intro parent parentOf
    rw [earlier parent (Hierarchy.parent?_eq_some_iff.mp parentOf).1]
    exact ⟨own parent, rfl, spread.nested index bound parent parentOf⟩

theorem Spread.le_of_inWindow (spread : Spread slots headings own)
    (found : slots[index]? = some slot) (fits : slot.Fits headings position)
    (earlier : ∀ other < index, hitsAt (place slots headings) other = [own other])
    (inside : InWindow (slots.map (·.level)) headings (place slots headings) index position) :
    own index ≤ position := by
  obtain ⟨holder, bound, rfl⟩ := spread.owned position slot (List.mem_of_getElem? found) fits
  refine spread.le_of_le (Nat.le_of_not_lt ?_) bound
  intro before
  have taken : own holder ∈ hitsAt (place slots headings) holder := by simp [earlier holder before]
  exact Nat.lt_irrefl _ (inside.behind holder before (own holder) taken)

/-- One step: a slot finds its own heading alone if those before it have done so. -/
theorem Spread.found_step (spread : Spread slots headings own) (found : slots[index]? = some slot)
    (earlier : ∀ other < index, hitsAt (place slots headings) other = [own other]) :
    (place slots headings)[index]? = some (.found (own index) []) := by
  obtain ⟨placement, placed, finds⟩ := place_finds headings found
  rw [placed]
  have opened := spread.inWindow found earlier
  have fits := spread.fits index slot found
  cases finds with
  | skipped orphan =>
    obtain ⟨parent, parentOf, empty⟩ := orphan
    rw [earlier parent (Hierarchy.parent?_eq_some_iff.mp parentOf).1] at empty
    cases empty
  | missing _ _ unfit => exact absurd fits (unfit _ opened)
  | found first stop _ inside taken earliest _ =>
    obtain rfl : own index = first :=
      Nat.le_antisymm (spread.le_of_inWindow found taken earlier inside)
        (earliest _ opened fits)
    rw [spread.furtherHits_eq_nil found]

theorem Spread.found (spread : Spread slots headings own) (bound : index < slots.length) :
    (place slots headings)[index]? = some (.found (own index) []) := by
  induction index using Nat.strongRecOn with
  | ind index ih =>
    refine spread.found_step (List.getElem?_eq_getElem bound) ?_
    intro other before
    rw [hitsAt_eq_of_getElem? (ih other before (Nat.lt_trans before bound))]
    rfl

section

variable {path : String} {contract : Contract} {rule : HeadingRule}

/-- The rule wants neither several headings nor numbered ones. -/
structure Undemanding (rule : HeadingRule) : Prop where
  single : rule.multiple ≠ .required
  unnumbered : rule.numbered ≠ .required

theorem Undemanding.ruleIssues_found (undemanding : Undemanding rule) {first : Nat}
    {heading : Heading} (present : headings[first]? = some heading)
    (plain : heading.numbered = false) :
    ruleIssues path headings rule (.found first []) = [] := by
  obtain ⟨single, unnumbered⟩ := undemanding
  have counted : countIssue? path rule headings first [] = none := by
    unfold countIssue?
    cases wanted : rule.multiple <;> simp [wanted] at single ⊢
  have numbers : rule.numbered.violation heading.numbered = none := by
    rw [plain]
    cases wanted : rule.numbered <;> simp [Policy.violation, wanted] at unnumbered ⊢
  simp [ruleIssues, counted, present, numbers]

theorem gapsFrom_eq_nil (plain : ∀ heading ∈ headings, heading.numberParts = [])
    (runs : List Run) : gapsFrom runs headings = [] := by
  induction headings generalizing runs with
  | nil => rfl
  | cons heading rest ih =>
    obtain ⟨first, later⟩ := List.forall_mem_cons.mp plain
    rw [gapsFrom, ih later, gap?, first]
    rfl

/-- Headings without numbers, one for each rule, have no issues with undemanding rules. -/
theorem Spread.check_issues (spread : Spread (contract.headings.map Slot.ofRule) headings own)
    (undemanding : ∀ rule ∈ contract.headings, Undemanding rule)
    (plain : ∀ heading ∈ headings, heading.numbered = false ∧ heading.numberParts = []) :
    (check path contract headings).issues = [] := by
  have sequence : sequenceIssues path headings = [] := by
    rw [sequenceIssues, gaps, gapsFrom_eq_nil fun heading member => (plain heading member).2]
    rfl
  rw [Outline.check_issues, sequence, List.append_nil, List.flatMap_eq_nil_iff]
  intro slot member
  have inside : slot < contract.headings.length := List.mem_range.mp member
  have ruled := List.getElem?_eq_getElem inside
  obtain ⟨heading, present, _⟩ := spread.fits slot (Slot.ofRule contract.headings[slot])
    (by simp [ruled])
  rw [issuesAt_eq ruled (spread.found (by simpa using inside))]
  exact (undemanding _ (List.mem_of_getElem? ruled)).ruleIssues_found present
    (plain heading (List.mem_of_getElem? present)).1

end

/-- The headings are one for each slot, in the order of the slots. -/
structure Fills (slots : List Slot) (headings : List Heading) : Prop where
  size : headings.length = slots.length
  accepted : ∀ (index : Nat) (slot : Slot) (heading : Heading), slots[index]? = some slot →
    headings[index]? = some heading → slot.accepts heading = true

theorem Fills.of_forall₂
    (accepted : List.Forall₂ (fun slot heading => slot.accepts heading = true) slots headings) :
    Fills slots headings where
  size := accepted.length_eq.symm
  accepted _ _ _ found present := List.forall₂_zip accepted
    (List.mem_of_getElem? (List.getElem?_zip_eq_some.mpr ⟨found, present⟩))

theorem Fills.heading (fills : Fills slots headings) (found : slots[index]? = some slot) :
    ∃ heading, headings[index]? = some heading ∧ slot.accepts heading = true := by
  have bound : index < headings.length := by
    rw [fills.size]
    exact (List.getElem?_eq_some_iff.mp found).1
  have present := List.getElem?_eq_getElem bound
  exact ⟨_, present, fills.accepted index slot _ found present⟩

theorem Fills.level (fills : Fills slots headings) {heading : Heading}
    (found : headings[index]? = some heading) :
    Hierarchy.levelAt (slots.map (·.level)) index = heading.level := by
  have bound : index < slots.length := by
    rw [← fills.size]
    exact (List.getElem?_eq_some_iff.mp found).1
  have present := List.getElem?_eq_getElem bound
  rw [Hierarchy.levelAt_map present]
  exact (Slot.level_of_accepts (fills.accepted index _ heading present found)).symm

theorem Fills.inSection (fills : Fills slots headings) (found : slots[index]? = some slot)
    {parent : Nat} (parentOf : Hierarchy.parent? (slots.map (·.level)) index = some parent) :
    InSection headings parent index := by
  obtain ⟨before, lesser, nearest⟩ := Hierarchy.parent?_eq_some_iff.mp parentOf
  obtain ⟨own, present, _⟩ := fills.heading found
  have bound := (List.getElem?_eq_some_iff.mp present).1
  have opened := List.getElem?_eq_getElem (Nat.lt_trans before bound)
  refine ⟨_, opened, before, bound, ?_⟩
  intro other inner after reached located
  rw [fills.level opened] at lesser
  rw [← fills.level located]
  rcases Nat.eq_or_lt_of_le reached with same | ahead
  · exact same ▸ lesser
  · exact UInt8.lt_of_lt_of_le lesser (nearest other after ahead)

section

variable {front middle back : List Heading} {heading : Heading}

/-- Where an element stands behind elements that are put in from `size` on. -/
def shifted (size count index : Nat) : Nat :=
  if index < size then index else index + count

theorem shifted_lt_shifted_iff {size count other : Nat} :
    shifted size count index < shifted size count other ↔ index < other := by
  unfold shifted
  split <;> split <;> omega

theorem getElem?_shifted (front middle back : List α) (index : Nat) :
    (front ++ middle ++ back)[shifted front.length middle.length index]? =
      (front ++ back)[index]? := by
  unfold shifted
  split
  · next before =>
    rw [List.append_assoc, List.getElem?_append_left before, List.getElem?_append_left before]
  · next behind =>
    have outside : front.length ≤ index := Nat.le_of_not_lt behind
    have offset : index + middle.length - (front.length + middle.length) =
        index - front.length := by omega
    rw [List.getElem?_append_right outside, List.getElem?_append_right (by simpa using outside),
      List.length_append, offset]

/-- Each position is one in the middle, or one that has been shifted. -/
theorem middle_or_shifted {item : α} {front middle back : List α}
    (found : (front ++ middle ++ back)[position]? = some item) :
    (front.length ≤ position ∧ position < front.length + middle.length ∧ item ∈ middle) ∨
      ∃ index, shifted front.length middle.length index = position := by
  unfold shifted
  by_cases before : position < front.length
  · exact .inr ⟨position, if_pos before⟩
  · by_cases inside : position < front.length + middle.length
    · rw [List.getElem?_append_left (by simpa using inside),
        List.getElem?_append_right (Nat.le_of_not_lt before)] at found
      exact .inl ⟨Nat.le_of_not_lt before, inside, List.mem_of_getElem? found⟩
    · refine .inr ⟨position - middle.length, ?_⟩
      rw [if_neg (by omega)]
      omega

/-- A section that goes on behind a heading is not opened by a deeper one. -/
theorem InSection.level_le {opener last : Nat} {head inner : Heading}
    (inside : InSection headings opener position) (opened : headings[opener]? = some head)
    (located : headings[last]? = some inner) (after : opener ≤ last) (before : last ≤ position) :
    head.level ≤ inner.level := by
  rcases Nat.eq_or_lt_of_le after with rfl | behind
  · exact UInt8.le_of_eq (by rw [Option.some.inj (opened.symm.trans located)])
  · obtain ⟨same, again, _, _, deeper⟩ := inside
    obtain rfl := Option.some.inj (opened.symm.trans again)
    exact UInt8.le_of_lt (deeper last inner behind before located)

/-- Headings that are deeper than the one in front of them end no section that goes on behind
them. -/
theorem InSection.insert {opener : Nat} (inside : InSection (front ++ back) opener position)
    (deeper : ∀ last ∈ front.getLast?, ∀ heading ∈ middle, last.level < heading.level) :
    InSection (front ++ middle ++ back) (shifted front.length middle.length opener)
      (shifted front.length middle.length position) := by
  obtain ⟨head, opened, before, bound, below⟩ := id inside
  have held := List.getElem?_eq_getElem bound
  rw [← getElem?_shifted front middle back] at held
  refine ⟨head, by rwa [getElem?_shifted], shifted_lt_shifted_iff.mpr before,
    (List.getElem?_eq_some_iff.mp held).1, ?_⟩
  intro other inner after reached located
  rcases middle_or_shifted located with ⟨behind, ahead, inserted⟩ | ⟨index, rfl⟩
  · have early : opener < front.length := by
      unfold shifted at after
      split at after <;> omega
    have late : front.length ≤ position := by
      unfold shifted at reached
      split at reached <;> omega
    have nonempty : front ≠ [] := List.ne_nil_of_length_pos (by omega)
    have last := List.getLast?_eq_some_getLast nonempty
    have there : (front ++ back)[front.length - 1]? = some (front.getLast nonempty) := by
      rw [List.getElem?_append_left (by omega), ← List.getLast?_eq_getElem?, last]
    exact UInt8.lt_of_le_of_lt (inside.level_le opened there (by omega) (by omega))
      (deeper _ last inner inserted)
  · rw [getElem?_shifted] at located
    exact below index inner (shifted_lt_shifted_iff.mp after)
      (Nat.le_of_not_lt fun ahead => Nat.not_lt.mpr reached (shifted_lt_shifted_iff.mpr ahead))
      located

/-- A full outline is spread out by headings that no slot accepts and that are deeper than the
heading in front of them. -/
theorem Fills.spread_insert (fills : Fills slots (front ++ back))
    (refused : ∀ heading ∈ middle, ∀ slot ∈ slots, slot.accepts heading = false)
    (deeper : ∀ last ∈ front.getLast?, ∀ heading ∈ middle, last.level < heading.level) :
    Spread slots (front ++ middle ++ back) (shifted front.length middle.length) where
  increasing _ _ before _ := shifted_lt_shifted_iff.mpr before
  fits index slot found := by
    obtain ⟨heading, present, accepted⟩ := fills.heading found
    exact ⟨heading, by rwa [getElem?_shifted], accepted⟩
  owned position slot member := by
    rintro ⟨heading, present, accepted⟩
    rcases middle_or_shifted present with ⟨_, _, inserted⟩ | ⟨index, rfl⟩
    · rw [refused heading inserted slot member] at accepted
      cases accepted
    · rw [getElem?_shifted] at present
      have bound := (List.getElem?_eq_some_iff.mp present).1
      exact ⟨index, fills.size ▸ bound, rfl⟩
  nested index bound parent parentOf :=
    (fills.inSection (List.getElem?_eq_getElem bound) parentOf).insert deeper

theorem Fills.found (fills : Fills slots headings) (bound : index < slots.length) :
    (place slots headings)[index]? = some (.found index []) := by
  have whole : Fills slots (headings ++ []) := by rwa [List.append_nil]
  have spread : Spread slots (headings ++ [] ++ []) (shifted headings.length 0) :=
    whole.spread_insert nofun nofun
  rw [List.append_nil, List.append_nil] at spread
  have same : shifted headings.length 0 index = index := by simp [shifted]
  rw [spread.found bound, same]

end

end DocContract.Outline
