import DocContract.Proofs.Outline.Hierarchy
import DocContract.Proofs.Outline.Step

namespace DocContract.Outline

/-- The positions of the headings in the slot. -/
def hitsAt (placements : List Placement) (slot : Nat) : List Nat :=
  (placements[slot]?.map Placement.hits).getD []

/-- The slots follow each other with all their headings. -/
def Ordered (placements : List Placement) : Prop :=
  (placements.flatMap Placement.hits).Pairwise (· < ·)

/-- The slot has a parent in which no heading stands. -/
def Orphan (levels : List UInt8) (placements : List Placement) (slot : Nat) : Prop :=
  ∃ parent, Hierarchy.parent? levels slot = some parent ∧ hitsAt placements parent = []

/-- The position is behind the headings of all slots before the slot and, if that has a parent,
inside the section of the parent's last heading. -/
structure InWindow (levels : List UInt8) (headings : List Heading) (placements : List Placement)
    (slot position : Nat) : Prop where
  inside : position < headings.length
  behind : ∀ earlier < slot, ∀ hit ∈ hitsAt placements earlier, hit < position
  below : ∀ parent, Hierarchy.parent? levels slot = some parent →
    ∃ opener, (hitsAt placements parent).getLast? = some opener ∧
      InSection headings opener position

section

variable {levels : List UInt8} {headings : List Heading} {placements done : List Placement}
variable {slot earlier position count : Nat} {window : Window}

theorem hitsAt_eq_of_getElem? {placement : Placement} (found : placements[slot]? = some placement) :
    hitsAt placements slot = placement.hits := by
  simp [hitsAt, found]

theorem lt_length_of_mem_hitsAt {hit : Nat} (member : hit ∈ hitsAt placements slot) :
    slot < placements.length := by
  apply Decidable.byContradiction
  intro outside
  simp [hitsAt, Nat.not_lt.mp outside] at member

theorem mem_flatMap_hits_iff {hit : Nat} :
    hit ∈ placements.flatMap Placement.hits ↔ ∃ slot, hit ∈ hitsAt placements slot := by
  rw [List.mem_flatMap]
  constructor
  · rintro ⟨placement, member, held⟩
    obtain ⟨slot, found⟩ := List.mem_iff_getElem?.mp member
    exact ⟨slot, by rwa [hitsAt_eq_of_getElem? found]⟩
  · rintro ⟨slot, held⟩
    have found := List.getElem?_eq_getElem (lt_length_of_mem_hitsAt held)
    rw [hitsAt_eq_of_getElem? found] at held
    exact ⟨_, List.getElem_mem _, held⟩

/-- The window of the first slot is the whole outline. -/
theorem inWindow_zero (inside : position < headings.length) :
    InWindow levels headings placements 0 position where
  inside := inside
  behind _ before := absurd before (Nat.not_lt_zero _)
  below _ parentOf :=
    absurd (Hierarchy.parent?_eq_some_iff.mp parentOf).1 (Nat.not_lt_zero _)

theorem hitsAt_take (inside : earlier < count) :
    hitsAt (placements.take count) earlier = hitsAt placements earlier := by
  simp [hitsAt, inside]

theorem orphan_take_iff :
    Orphan levels (placements.take slot) slot ↔ Orphan levels placements slot := by
  refine exists_congr fun parent => and_congr_right fun found => ?_
  rw [hitsAt_take (Hierarchy.parent?_eq_some_iff.mp found).1]

theorem inWindow_take_iff :
    InWindow levels headings (placements.take slot) slot position ↔
      InWindow levels headings placements slot position := by
  have same (parent : Nat) (found : Hierarchy.parent? levels slot = some parent) :
      hitsAt (placements.take slot) parent = hitsAt placements parent :=
    hitsAt_take (Hierarchy.parent?_eq_some_iff.mp found).1
  constructor
  · rintro ⟨inside, behind, below⟩
    refine ⟨inside, ?_, ?_⟩
    · intro earlier before
      rw [← hitsAt_take before]
      exact behind earlier before
    · intro parent found
      rw [← same parent found]
      exact below parent found
  · rintro ⟨inside, behind, below⟩
    refine ⟨inside, ?_, ?_⟩
    · intro earlier before
      rw [hitsAt_take before]
      exact behind earlier before
    · intro parent found
      rw [same parent found]
      exact below parent found

/-- The cursor bounds exactly the positions behind all headings that have been placed. -/
theorem cursor_le_iff (ordered : Ordered done) :
    cursor done ≤ position ↔ ∀ slot, ∀ hit ∈ hitsAt done slot, hit < position := by
  have flat : (∀ slot, ∀ hit ∈ hitsAt done slot, hit < position) ↔
      ∀ hit ∈ done.flatMap Placement.hits, hit < position := by
    simp only [mem_flatMap_hits_iff, forall_exists_index]
    exact ⟨fun all hit slot => all slot hit, fun all slot hit => all hit slot⟩
  rw [flat]
  unfold cursor
  unfold Ordered at ordered
  split
  · next last found =>
    obtain ⟨front, whole⟩ := List.getLast?_eq_some_iff.mp found
    rw [whole] at ordered ⊢
    have lower := (List.pairwise_append.mp ordered).2.2
    constructor
    · intro reached hit member
      rcases List.mem_append.mp member with early | own
      · exact Nat.lt_trans (lower hit early last (by simp)) reached
      · rw [List.mem_singleton.mp own]
        exact reached
    · intro all
      exact all last (by simp)
  · next found =>
    simp [List.getLast?_eq_none_iff.mp found]

theorem window?_eq_none_iff :
    window? levels headings done = none ↔ Orphan levels done done.length := by
  unfold window? Orphan
  cases parentOf : Hierarchy.parent? levels done.length with
  | none => simp
  | some parent =>
    cases found : done[parent]? with
    | none => simp [found, hitsAt]
    | some placement => cases placement <;> simp [found, hitsAt, Placement.hits]

theorem mem_window_iff (ordered : Ordered done)
    (opened : window? levels headings done = some window) :
    (window.start ≤ position ∧ position < window.stop) ↔
      InWindow levels headings done done.length position := by
  have behind : cursor done ≤ position ↔
      ∀ earlier < done.length, ∀ hit ∈ hitsAt done earlier, hit < position := by
    rw [cursor_le_iff ordered]
    exact ⟨fun all earlier _ => all earlier, fun all earlier hit member =>
      all earlier (lt_length_of_mem_hitsAt member) hit member⟩
  unfold window? at opened
  cases parentOf : Hierarchy.parent? levels done.length with
  | none =>
    simp only [parentOf, Option.some.injEq] at opened
    subst opened
    rw [behind]
    exact ⟨fun ⟨after, before⟩ => ⟨before, after, by simp [parentOf]⟩,
      fun held => ⟨held.behind, held.inside⟩⟩
  | some parent =>
    have early := (Hierarchy.parent?_eq_some_iff.mp parentOf).1
    simp only [parentOf] at opened
    split at opened
    · next first more found =>
      obtain rfl := Option.some.inj opened
      have hits : hitsAt done parent = first :: more := by
        rw [hitsAt_eq_of_getElem? found]
        rfl
      have last : (hitsAt done parent).getLast? = some ((first :: more).getLastD first) := by
        rw [hits, List.getLastD_cons, List.getLast?_cons, List.getLastD_eq_getLast?]
      -- The parent's headings are among those that the cursor has passed.
      have past (reached : cursor done ≤ position) (hit : Nat) (member : hit ∈ first :: more) :
          hit < position := behind.mp reached parent early hit (by rwa [hits])
      have lastMem : (first :: more).getLastD first ∈ first :: more := by
        rw [hits] at last
        exact List.mem_of_getLast? last
      simp only [Nat.max_le]
      constructor
      · rintro ⟨⟨reached, _⟩, before⟩
        have enclosed := (lt_sectionEnd_iff (past reached _ lastMem)).mp before
        refine ⟨?_, behind.mp reached, ?_⟩
        · obtain ⟨_, _, _, inside, _⟩ := enclosed
          exact inside
        · intro other found
          obtain rfl := Option.some.inj (parentOf.symm.trans found)
          exact ⟨_, last, enclosed⟩
      · intro held
        have reached := behind.mpr held.behind
        obtain ⟨opener, found, enclosed⟩ := held.below parent parentOf
        obtain rfl := Option.some.inj (last.symm.trans found)
        exact ⟨⟨reached, past reached first List.mem_cons_self⟩,
          (lt_sectionEnd_iff (past reached _ lastMem)).mpr enclosed⟩
    · cases opened

end

end DocContract.Outline
