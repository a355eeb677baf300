import DocContract.Proofs.Outline.Issues
import DocContract.Proofs.Outline.Rank
import DocContract.Proofs.Outline.Scopes
import DocContract.Proofs.Outline.Soundness

/-!
Details of a document are headings that are deeper than all rules.  Leaving them out moves the
positions of the others, and nothing else: each of these stands in the slot in which it stood, and
the same issues are reported but for those about the order of numbers.
-/

namespace DocContract.Outline

/-- The positions that the placement holds: those of its headings, or that of the section in which
it has none. -/
def Placement.positions : Placement → List Nat
  | .found first more => first :: more
  | .missing parent => parent.toList
  | .skipped => []

def Placement.renumber (number : Nat → Nat) : Placement → Placement
  | .found first more => .found (number first) (more.map number)
  | .missing parent => .missing (parent.map number)
  | .skipped => .skipped

def Window.renumber (number : Nat → Nat) (window : Window) : Window where
  start := number window.start
  stop := number window.stop
  parent := window.parent.map number

/-- No detail has been placed. -/
def Coarse (depth : UInt8) (headings : List Heading) (placement : Placement) : Prop :=
  ∀ position ∈ placement.positions, KeptAt depth headings position

section

variable {depth : UInt8} {headings : List Heading} {slots rest : List Slot} {slot : Slot}
variable {sibling : Option Slot} {heading : Heading} {placement : Placement}
variable {done : List Placement} {position : Nat} {window : Window}

theorem Placement.mem_positions_of_mem_hits (member : position ∈ placement.hits) :
    position ∈ placement.positions := by
  cases placement with
  | found first more => exact member
  | missing parent => cases member
  | skipped => cases member

theorem Placement.hits_renumber (number : Nat → Nat) (placement : Placement) :
    (placement.renumber number).hits = placement.hits.map number := by
  cases placement <;> rfl

theorem Slot.reaches_of_accepts (shallow : slot.level ≤ depth)
    (accepted : slot.accepts heading = true) : reaches depth heading = true := by
  rw [reaches, decide_eq_true_eq, Slot.level_of_accepts accepted]
  exact shallow

theorem Slot.Fits.keptAt (fits : slot.Fits headings position) (shallow : slot.level ≤ depth) :
    KeptAt depth headings position := by
  obtain ⟨heading, found, accepted⟩ := fits
  exact ⟨heading, found, Slot.reaches_of_accepts shallow accepted⟩

theorem Slot.fits_of_find? {start stop : Nat}
    (search : ((between headings start stop).find? fun entry => slot.accepts entry.1) =
      some (heading, position)) : slot.Fits headings position := by
  obtain ⟨_, _, found, accepted, _⟩ := find?_between_eq_some slot.accepts search
  exact ⟨heading, found, accepted⟩

/-- A slot that is not deeper than the level accepts no detail. -/
theorem find?_withoutDetails (shallow : slot.level ≤ depth) (entries : List (Heading × Nat)) :
    (((entries.filter fun entry => reaches depth entry.1).map (moved depth headings)).find?
        fun entry => slot.accepts entry.1) =
      (entries.find? fun entry => slot.accepts entry.1).map (moved depth headings) := by
  rw [List.find?_map, List.find?_filter]
  congr 2
  funext entry
  rw [Bool.decide_and, Bool.decide_eq_true, Bool.decide_eq_true]
  exact Bool.and_eq_right_iff_imp.mpr (Slot.reaches_of_accepts shallow)

theorem furtherHits_withoutDetails (shallow : slot.level ≤ depth)
    (entries : List (Heading × Nat)) :
    furtherHits slot sibling
        ((entries.filter fun entry => reaches depth entry.1).map (moved depth headings)) =
      (furtherHits slot sibling entries).map (rank depth headings) := by
  induction entries with
  | nil => rfl
  | cons entry rest ih =>
    obtain ⟨heading, position⟩ := entry
    rw [List.filter_cons]
    by_cases reached : reaches depth heading = true
    · rw [if_pos reached, List.map_cons, moved, furtherHits, furtherHits, ih]
      split
      · rfl
      · split <;> rfl
    · have deeper : slot.level < heading.level := by
        rw [reaches, decide_eq_true_eq, UInt8.not_le] at reached
        exact UInt8.lt_of_le_of_lt shallow reached
      rw [if_neg reached, ih, furtherHits, if_pos deeper]

theorem cursor_withoutDetails (coarse : ∀ placement ∈ done, Coarse depth headings placement) :
    cursor (done.map (·.renumber (rank depth headings))) = rank depth headings (cursor done) := by
  have hits : (done.map (·.renumber (rank depth headings))).flatMap Placement.hits =
      (done.flatMap Placement.hits).map (rank depth headings) := by
    simp only [List.flatMap_map, Placement.hits_renumber, List.map_flatMap]
  rw [cursor, hits, List.getLast?_map, cursor]
  cases last : (done.flatMap Placement.hits).getLast? with
  | none => exact rank_zero.symm
  | some position =>
    obtain ⟨placement, member, hit⟩ := List.mem_flatMap.mp (List.mem_of_getLast? last)
    exact ((coarse placement member position
      (Placement.mem_positions_of_mem_hits hit)).rank_succ).symm

theorem window?_withoutDetails (levels : List UInt8)
    (coarse : ∀ placement ∈ done, Coarse depth headings placement) :
    window? levels (withoutDetails depth headings)
        (done.map (·.renumber (rank depth headings))) =
      (window? levels headings done).map (·.renumber (rank depth headings)) := by
  unfold window?
  rw [List.length_map, cursor_withoutDetails coarse]
  cases Hierarchy.parent? levels done.length with
  | none => simp only [length_withoutDetails, Option.map_some, Window.renumber, Option.map_none]
  | some parent =>
    simp only [List.getElem?_map]
    cases found : done[parent]? with
    | none => simp only [Option.map_none]
    | some placement =>
      cases placement with
      | missing parent => simp only [Option.map_some, Placement.renumber, Option.map_none]
      | skipped => simp only [Option.map_some, Placement.renumber, Option.map_none]
      | found first more =>
        have kept := coarse _ (List.mem_of_getElem? found)
        have final : (first :: more).getLastD first ∈ first :: more := by
          rw [List.getLastD_cons]
          exact List.getLastD_mem_cons
        simp only [Option.map_some, Placement.renumber, Window.renumber, rank_max,
          (kept first List.mem_cons_self).rank_succ, ← List.map_cons, List.getLastD_map,
          sectionEnd_withoutDetails (kept _ final)]

theorem keptAt_of_window? {levels : List UInt8} {parent : Nat}
    (coarse : ∀ placement ∈ done, Coarse depth headings placement)
    (opened : window? levels headings done = some window) (under : window.parent = some parent) :
    KeptAt depth headings parent := by
  unfold window? at opened
  split at opened
  · obtain rfl := Option.some.inj opened
    cases under
  · split at opened
    · next first more found =>
      obtain rfl := Option.some.inj opened
      obtain rfl := Option.some.inj under
      exact coarse _ (List.mem_of_getElem? found) _ List.mem_cons_self
    · cases opened

theorem coarse_placeNext (coarse : ∀ placement ∈ done, Coarse depth headings placement)
    (shallow : slot.level ≤ depth) :
    Coarse depth headings (placeNext slots headings done slot) := by
  intro position member
  unfold placeNext at member
  cases opened : window? (slots.map (·.level)) headings done with
  | none => simp [opened, Placement.positions] at member
  | some window =>
    cases search : (between headings window.start window.stop).find?
        fun entry => slot.accepts entry.1 with
    | none =>
      simp only [opened, search] at member
      exact keptAt_of_window? coarse opened (Option.mem_toList.mp member)
    | some entry =>
      simp only [opened, search] at member
      rcases List.mem_cons.mp member with rfl | further
      · exact (Slot.fits_of_find? search).keptAt shallow
      · obtain ⟨other, present, repeated⟩ := (mem_furtherHits_iff.mp further).taken
        exact Slot.Fits.keptAt ⟨other, present, repeated.1⟩ shallow

/-- One step: without details the next slot finds the same headings at their new positions. -/
theorem placeNext_withoutDetails (coarse : ∀ placement ∈ done, Coarse depth headings placement)
    (shallow : slot.level ≤ depth) :
    placeNext slots (withoutDetails depth headings)
        (done.map (·.renumber (rank depth headings))) slot =
      (placeNext slots headings done slot).renumber (rank depth headings) := by
  simp only [placeNext, window?_withoutDetails _ coarse, List.length_map]
  cases window? (slots.map (·.level)) headings done with
  | none => rfl
  | some window =>
    simp only [Option.map_some, Window.renumber, between_withoutDetails,
      find?_withoutDetails shallow]
    cases search : (between headings window.start window.stop).find?
        fun entry => slot.accepts entry.1 with
    | none => rfl
    | some entry =>
      have kept : KeptAt depth headings entry.2 := (Slot.fits_of_find? search).keptAt shallow
      simp only [Option.map_some, moved, Placement.renumber, ← kept.rank_succ,
        between_withoutDetails, furtherHits_withoutDetails shallow]

/-- One step keeps that no detail has been placed. -/
theorem coarse_step (coarse : ∀ placement ∈ done, Coarse depth headings placement)
    (shallow : slot.level ≤ depth) :
    ∀ placement ∈ done ++ [placeNext slots headings done slot],
      Coarse depth headings placement := by
  intro placement member
  rcases List.mem_append.mp member with before | next
  · exact coarse placement before
  · rw [List.mem_singleton.mp next]
    exact coarse_placeNext coarse shallow

theorem coarse_placeFrom (coarse : ∀ placement ∈ done, Coarse depth headings placement)
    (shallow : ∀ slot ∈ rest, slot.level ≤ depth) :
    ∀ placement ∈ placeFrom slots headings done rest, Coarse depth headings placement := by
  induction rest generalizing done with
  | nil => exact coarse
  | cons slot rest ih =>
    obtain ⟨own, others⟩ := List.forall_mem_cons.mp shallow
    exact ih (coarse_step coarse own) others

theorem placeFrom_withoutDetails (coarse : ∀ placement ∈ done, Coarse depth headings placement)
    (shallow : ∀ slot ∈ rest, slot.level ≤ depth) :
    placeFrom slots (withoutDetails depth headings)
        (done.map (·.renumber (rank depth headings))) rest =
      (placeFrom slots headings done rest).map (·.renumber (rank depth headings)) := by
  -- The slots that are done are at their new positions as well, so each step looks behind the same
  -- headings as it does in the whole outline.
  induction rest generalizing done with
  | nil => rfl
  | cons slot rest ih =>
    obtain ⟨own, others⟩ := List.forall_mem_cons.mp shallow
    rw [placeFrom, placeNext_withoutDetails coarse own, ← List.map_singleton, ← List.map_append,
      ih (coarse_step coarse own) others, placeFrom]

end

/-- The issues that are not about the order of heading numbers. -/
def unsequenced (issues : List Issue) : List Issue :=
  issues.filter fun issue => issue.code != .headingNumberSequence

section

variable {path : String} {depth : UInt8} {headings : List Heading} {rule : HeadingRule}
variable {placement : Placement} {placements : List Placement} {position : Nat}

theorem unsequenced_append (issues more : List Issue) :
    unsequenced (issues ++ more) = unsequenced issues ++ unsequenced more :=
  List.filter_append issues more

theorem unsequenced_sequenceIssues : unsequenced (sequenceIssues path headings) = [] := by
  refine List.filter_eq_nil_iff.mpr ?_
  intro issue member
  rw [code_of_mem_sequenceIssues member]
  decide

theorem countIssue?_withoutDetails {first : Nat} {more : List Nat}
    (coarse : Coarse depth headings (.found first more)) :
    countIssue? path rule (withoutDetails depth headings) (rank depth headings first)
        (more.map (rank depth headings)) =
      countIssue? path rule headings first more := by
  unfold countIssue?
  cases rule.multiple with
  | allowed => rfl
  | prohibited =>
    cases more with
    | nil => rfl
    | cons second more =>
      have kept := coarse second (List.mem_cons_of_mem first List.mem_cons_self)
      simp only [List.map_cons, List.length_cons, List.length_map, kept.getElem?_withoutDetails]
  | required =>
    cases more with
    | nil =>
      have kept := coarse first List.mem_cons_self
      simp only [List.map_nil, kept.getElem?_withoutDetails]
    | cons second more => rfl

theorem ruleIssues_withoutDetails (coarse : Coarse depth headings placement) :
    ruleIssues path (withoutDetails depth headings) rule
        (placement.renumber (rank depth headings)) =
      ruleIssues path headings rule placement := by
  cases placement with
  | skipped => rfl
  | missing parent =>
    cases parent with
    | none => rfl
    | some parent =>
      have kept := coarse parent (List.mem_singleton_self parent)
      simp only [Placement.renumber, ruleIssues, Option.map_some, Option.bind_some,
        kept.getElem?_withoutDetails]
  | found first more =>
    have present : ((first :: more).map (rank depth headings)).filterMap
          (fun index => (withoutDetails depth headings)[index]?) =
        (first :: more).filterMap fun index => headings[index]? := by
      rw [List.filterMap_map]
      exact List.filterMap_congr fun position member =>
        (coarse position member).getElem?_withoutDetails
    rw [Placement.renumber, ruleIssues, ruleIssues, countIssue?_withoutDetails coarse,
      ← List.map_cons, present]

theorem contains_hits_renumber (coarse : Coarse depth headings placement)
    (kept : KeptAt depth headings position) :
    (placement.renumber (rank depth headings)).hits.contains (rank depth headings position) =
      placement.hits.contains position := by
  rw [Bool.eq_iff_iff, List.contains_iff_mem, List.contains_iff_mem, Placement.hits_renumber,
    List.mem_map]
  constructor
  · rintro ⟨hit, member, same⟩
    have also := coarse hit (Placement.mem_positions_of_mem_hits member)
    exact (rank_inj also kept).mp same ▸ member
  · intro member
    exact ⟨position, member, rfl⟩

theorem slotOf?_renumber (coarse : ∀ placement ∈ placements, Coarse depth headings placement)
    (kept : KeptAt depth headings position) :
    slotOf? (placements.map (·.renumber (rank depth headings))) (rank depth headings position) =
      slotOf? placements position := by
  unfold slotOf?
  induction placements with
  | nil => rfl
  | cons first rest ih =>
    obtain ⟨own, others⟩ := List.forall_mem_cons.mp coarse
    rw [List.map_cons, List.findIdx?_cons, List.findIdx?_cons, contains_hits_renumber own kept,
      ih others]

end

namespace Scopes

variable {depth : UInt8} {around : List (UInt8 × Option String)}
variable {entries : List (Heading × Option String)}

theorem filterMap_snd_filter (unassigned : ∀ opened ∈ around, depth < opened.1 → opened.2 = none) :
    (around.filter fun opened => opened.1 ≤ depth).filterMap Prod.snd =
      around.filterMap Prod.snd := by
  rw [List.filterMap_filter]
  refine List.filterMap_congr fun opened member => ?_
  split
  · rfl
  · next deeper =>
    rw [decide_eq_true_eq, UInt8.not_le] at deeper
    exact (unassigned opened member deeper).symm

theorem dropWhile_filter_of_le {level : UInt8} (shallow : level ≤ depth) :
    ((around.filter fun opened => opened.1 ≤ depth).dropWhile fun opened => level ≤ opened.1) =
      (around.dropWhile fun opened => level ≤ opened.1).filter fun opened => opened.1 ≤ depth := by
  rw [List.dropWhile_filter]
  congr 2
  funext opened
  rcases UInt8.le_total opened.1 depth with inside | deeper
  · simp [inside]
  · simp [UInt8.le_trans shallow deeper]

theorem filter_dropWhile_of_lt {level : UInt8} (deeper : depth < level) :
    ((around.dropWhile fun opened => level ≤ opened.1).filter fun opened => opened.1 ≤ depth) =
      around.filter fun opened => opened.1 ≤ depth := by
  have ended : ((around.takeWhile fun opened => level ≤ opened.1).filter
      fun opened => opened.1 ≤ depth) = [] := by
    refine List.filter_eq_nil_iff.mpr fun opened member => ?_
    have inner : level ≤ opened.1 := by simpa using List.mem_takeWhile_imp member
    simpa using UInt8.lt_of_lt_of_le deeper inner
  calc (around.dropWhile fun opened => level ≤ opened.1).filter (fun opened => opened.1 ≤ depth)
      = ((around.takeWhile fun opened => level ≤ opened.1) ++
          around.dropWhile fun opened => level ≤ opened.1).filter fun opened =>
            opened.1 ≤ depth := by rw [List.filter_append, ended, List.nil_append]
    _ = around.filter fun opened => opened.1 ≤ depth := by rw [List.takeWhile_append_dropWhile]

/-- A detail ends only sections of details, and as far as these have no ids they do not show in the
sections of other headings. -/
theorem buildFrom_withoutDetails
    (outside : ∀ opened ∈ around, depth < opened.1 → opened.2 = none)
    (unassigned : ∀ entry ∈ entries, reaches depth entry.1 = false → entry.2 = none) :
    buildFrom (around.filter fun opened => opened.1 ≤ depth)
        (entries.filter fun entry => reaches depth entry.1) =
      (buildFrom around entries).filter fun scope => scope.level ≤ depth := by
  induction entries generalizing around with
  | nil => rfl
  | cons entry rest ih =>
    obtain ⟨heading, id⟩ := entry
    obtain ⟨own, others⟩ := List.forall_mem_cons.mp unassigned
    have inside : ∀ opened ∈ (heading.level, id) ::
        around.dropWhile (fun opened => heading.level ≤ opened.1),
        depth < opened.1 → opened.2 = none := by
      intro opened member deeper
      rcases List.mem_cons.mp member with rfl | outer
      · exact own (decide_eq_false (UInt8.not_le.mpr deeper))
      · exact outside opened ((List.dropWhile_sublist _).subset outer) deeper
    rw [buildFrom, List.filter_cons, List.filter_cons]
    by_cases shallow : heading.level ≤ depth
    · have kept : ((heading.level, id) :: (around.filter fun opened => opened.1 ≤ depth).dropWhile
            fun opened => heading.level ≤ opened.1) =
          ((heading.level, id) :: around.dropWhile fun opened =>
            heading.level ≤ opened.1).filter fun opened => opened.1 ≤ depth := by
        rw [dropWhile_filter_of_le shallow, List.filter_cons, if_pos (decide_eq_true shallow)]
      have reached : reaches depth heading = true := decide_eq_true shallow
      rw [if_pos reached, if_pos (decide_eq_true shallow), buildFrom, kept,
        filterMap_snd_filter inside, ih inside others]
    · have ended : ((heading.level, id) :: around.dropWhile fun opened =>
            heading.level ≤ opened.1).filter (fun opened => opened.1 ≤ depth) =
          around.filter fun opened => opened.1 ≤ depth := by
        rw [List.filter_cons, if_neg (by simpa using shallow),
          filter_dropWhile_of_lt (UInt8.not_le.mp shallow)]
      rw [if_neg (by simpa [reaches] using shallow), if_neg (by simpa using shallow),
        ← ih inside others, ended]

end Scopes

def deepestLevel (rules : List HeadingRule) : UInt8 :=
  (rules.map (·.level)).foldr max 0

/-- The headings with the slots in which they stand. -/
def slotted (contract : Contract) (headings : List Heading) : List (Heading × Option Nat) :=
  headings.zipIdx.map fun (heading, position) =>
    (heading, slotOf? (placements contract headings) position)

section

variable {contract : Contract} {depth : UInt8} {headings : List Heading} {rules : List HeadingRule}
variable {rule : HeadingRule}

theorem level_le_deepestLevel (member : rule ∈ rules) : rule.level ≤ deepestLevel rules := by
  have larger (level other : UInt8) : level ≤ max level other ∧ other ≤ max level other := by
    show level ≤ (if level ≤ other then other else level) ∧
      other ≤ if level ≤ other then other else level
    split
    · next ordered => exact ⟨ordered, UInt8.le_refl other⟩
    · next ordered => exact ⟨UInt8.le_refl level, UInt8.le_of_lt (UInt8.not_le.mp ordered)⟩
  induction rules with
  | nil => cases member
  | cons first rest ih =>
    rcases List.mem_cons.mp member with rfl | later
    · exact (larger _ _).1
    · exact UInt8.le_trans (ih later) (larger first.level (deepestLevel rest)).2

theorem coarse_placements (shallow : ∀ rule ∈ contract.headings, rule.level ≤ depth) :
    ∀ placement ∈ placements contract headings, Coarse depth headings placement := by
  refine coarse_placeFrom (List.forall_mem_nil _) ?_
  simpa [Slot.ofRule] using shallow

theorem placements_withoutDetails (shallow : ∀ rule ∈ contract.headings, rule.level ≤ depth) :
    placements contract (withoutDetails depth headings) =
      (placements contract headings).map (·.renumber (rank depth headings)) := by
  refine placeFrom_withoutDetails (List.forall_mem_nil _) ?_
  simpa [Slot.ofRule] using shallow

theorem zipIdx_withoutDetails :
    (withoutDetails depth headings).zipIdx =
      (headings.zipIdx.filter fun entry => reaches depth entry.1).map (moved depth headings) := by
  have whole (outline : List Heading) : between outline 0 outline.length = outline.zipIdx := by
    rw [between, List.drop_zero, Nat.sub_zero, List.take_of_length_le (by simp)]
  rw [← whole, ← whole, length_withoutDetails, ← between_withoutDetails, rank_zero]

theorem slotted_withoutDetails (shallow : ∀ rule ∈ contract.headings, rule.level ≤ depth) :
    slotted contract (withoutDetails depth headings) =
      (slotted contract headings).filter fun entry => reaches depth entry.1 := by
  rw [slotted, slotted, placements_withoutDetails shallow, zipIdx_withoutDetails, List.map_map,
    List.filter_map]
  refine List.map_congr_left ?_
  rintro ⟨heading, position⟩ member
  obtain ⟨listed, reached⟩ := List.mem_filter.mp member
  have found : headings[position]? = some heading := List.mem_zipIdx_iff_getElem?.mp listed
  simp only [Function.comp_apply, moved,
    slotOf?_renumber (coarse_placements shallow) ⟨heading, found, reached⟩]

theorem unsequenced_check_withoutDetails {path : String}
    (shallow : ∀ rule ∈ contract.headings, rule.level ≤ depth) :
    unsequenced (check path contract (withoutDetails depth headings)).issues =
      unsequenced (check path contract headings).issues := by
  simp only [check, unsequenced_append, unsequenced_sequenceIssues, List.append_nil,
    placements_withoutDetails shallow, List.zip_map_right, List.flatMap_map]
  refine congrArg unsequenced (List.flatMap_congr ?_)
  rintro ⟨rule, placement⟩ member
  have placed := (List.of_mem_zip member).2
  exact ruleIssues_withoutDetails (coarse_placements shallow placement placed)

/-- No slot holds a detail. -/
theorem snd_eq_none_of_mem_slotted (shallow : ∀ rule ∈ contract.headings, rule.level ≤ depth)
    {entry : Heading × Option Nat} (member : entry ∈ slotted contract headings)
    (detail : reaches depth entry.1 = false) : entry.2 = none := by
  obtain ⟨⟨heading, position⟩, listed, rfl⟩ := List.mem_map.mp member
  have found : headings[position]? = some heading := List.mem_zipIdx_iff_getElem?.mp listed
  refine Option.eq_none_iff_forall_ne_some.mpr fun slot stands => ?_
  obtain ⟨_, placement, _, placed, hit, _⟩ := finds_of_mem_hitsAt (slotOf?_eq_some_iff.mp stands)
  obtain ⟨other, present, reached⟩ := coarse_placements shallow placement
    (List.mem_of_getElem? placed) position (Placement.mem_positions_of_mem_hits hit)
  obtain rfl := Option.some.inj (found.symm.trans present)
  cases detail.symm.trans reached

theorem scopes_check_withoutDetails {path : String}
    (shallow : ∀ rule ∈ contract.headings, rule.level ≤ depth) :
    (check path contract (withoutDetails depth headings)).scopes =
      (check path contract headings).scopes.filter fun scope => scope.level ≤ depth := by
  let named := fun entry : Heading × Option Nat =>
    (entry.1, entry.2.bind fun slot => contract.headings[slot]?.map (·.id))
  have scopes (outline : List Heading) : (check path contract outline).scopes =
      Scopes.build ((slotted contract outline).map named) := by
    rw [slotted, List.map_map]
    rfl
  have unassigned : ∀ entry ∈ (slotted contract headings).map named,
      reaches depth entry.1 = false → entry.2 = none := by
    intro entry member detail
    obtain ⟨slotted, listed, rfl⟩ := List.mem_map.mp member
    simp only [named, snd_eq_none_of_mem_slotted shallow listed detail, Option.bind_none]
  rw [scopes, scopes, Scopes.build, Scopes.build,
    ← Scopes.buildFrom_withoutDetails (List.forall_mem_nil _) unassigned,
    slotted_withoutDetails shallow, List.filter_map]
  rfl

end

/-- Headings that are deeper than all rules do not count: without them the same issues are reported
in the same order, but for those about the order of numbers, every other heading stands in the slot
in which it stood, and its section has the same ids. -/
theorem check_withoutDetails (path : String) (contract : Contract) (headings : List Heading) :
    let depth := deepestLevel contract.headings
    let kept := withoutDetails depth headings
    unsequenced (check path contract kept).issues =
      unsequenced (check path contract headings).issues ∧
    slotted contract kept =
      (slotted contract headings).filter (fun entry => reaches depth entry.1) ∧
    (check path contract kept).scopes =
      (check path contract headings).scopes.filter fun scope => scope.level ≤ depth := by
  intro depth kept
  have shallow : ∀ rule ∈ contract.headings, rule.level ≤ depth :=
    fun _ member => level_le_deepestLevel member
  exact ⟨unsequenced_check_withoutDetails shallow, slotted_withoutDetails shallow,
    scopes_check_withoutDetails shallow⟩

end DocContract.Outline
