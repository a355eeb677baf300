import DocContract.Proofs.Outline.Window

namespace DocContract.Outline

def siblingAfter? (slots : List Slot) (index : Nat) : Option Slot :=
  (Hierarchy.nextSibling? (slots.map (·.level)) index).bind fun next => slots[next]?

/-- What the slot at a position may find, in terms of its window.  A found slot ends with its
window, and its first heading is the earliest there that fits. -/
inductive Finds (slots : List Slot) (headings : List Heading) (placements : List Placement)
    (index : Nat) (slot : Slot) : Placement → Prop where
  | skipped (orphan : Orphan (slots.map (·.level)) placements index) :
      Finds slots headings placements index slot .skipped
  | missing (parent : Option Nat) (adopted : ¬ Orphan (slots.map (·.level)) placements index)
      (unfit : ∀ position, InWindow (slots.map (·.level)) headings placements index position →
        ¬ slot.Fits headings position) :
      Finds slots headings placements index slot (.missing parent)
  | found (first stop : Nat) (adopted : ¬ Orphan (slots.map (·.level)) placements index)
      (inside : InWindow (slots.map (·.level)) headings placements index first)
      (fits : slot.Fits headings first)
      (earliest : ∀ position, InWindow (slots.map (·.level)) headings placements index position →
        slot.Fits headings position → first ≤ position)
      (bounded : ∀ position, first < position →
        (position < stop ↔ InWindow (slots.map (·.level)) headings placements index position)) :
      Finds slots headings placements index slot
        (.found first
          (furtherHits slot (siblingAfter? slots index) (between headings (first + 1) stop)))

section

variable {slots rest : List Slot} {headings : List Heading} {placements done : List Placement}
variable {slot : Slot} {placement : Placement} {index position offset : Nat}

theorem Finds.inWindow (finds : Finds slots headings placements index slot placement)
    (member : position ∈ placement.hits) :
    InWindow (slots.map (·.level)) headings placements index position := by
  cases finds with
  | skipped _ => simp [Placement.hits] at member
  | missing _ _ _ => simp [Placement.hits] at member
  | found first stop _ inside _ _ bounded =>
    rcases List.mem_cons.mp member with same | further
    · exact same ▸ inside
    · have hit := mem_furtherHits_iff.mp further
      exact (bounded position hit.behind).mp hit.before

theorem Finds.fits (finds : Finds slots headings placements index slot placement)
    (member : position ∈ placement.hits) : slot.Fits headings position := by
  cases finds with
  | skipped _ => simp [Placement.hits] at member
  | missing _ _ _ => simp [Placement.hits] at member
  | found first stop _ _ fits _ _ =>
    rcases List.mem_cons.mp member with same | further
    · exact same ▸ fits
    · obtain ⟨heading, found, repeated⟩ := (mem_furtherHits_iff.mp further).taken
      exact ⟨heading, found, repeated.1⟩

theorem Finds.pairwise (finds : Finds slots headings placements index slot placement) :
    placement.hits.Pairwise (· < ·) := by
  cases finds with
  | skipped _ => exact .nil
  | missing _ _ _ => exact .nil
  | found first stop _ _ _ _ _ =>
    refine List.pairwise_cons.mpr ⟨?_, pairwise_furtherHits⟩
    intro later member
    exact (mem_furtherHits_iff.mp member).behind

/-- What a slot finds depends on the placements in front of it only. -/
theorem Finds.of_take (finds : Finds slots headings (placements.take index) index slot placement) :
    Finds slots headings placements index slot placement := by
  cases finds with
  | skipped orphan => exact .skipped (orphan_take_iff.mp orphan)
  | missing parent adopted unfit =>
    refine .missing parent (mt orphan_take_iff.mpr adopted) ?_
    intro position inside
    exact unfit position (inWindow_take_iff.mpr inside)
  | found first stop adopted inside fits earliest bounded =>
    refine .found first stop (mt orphan_take_iff.mpr adopted) (inWindow_take_iff.mp inside) fits
      ?_ ?_
    · intro position held
      exact earliest position (inWindow_take_iff.mpr held)
    · intro position after
      rw [bounded position after, inWindow_take_iff]

/-- One step: the next slot finds what its window holds. -/
theorem placeNext_finds (ordered : Ordered done) :
    Finds slots headings done done.length slot (placeNext slots headings done slot) := by
  cases opened : window? (slots.map (·.level)) headings done with
  | none =>
    have next : placeNext slots headings done slot = .skipped := by simp [placeNext, opened]
    rw [next]
    exact .skipped (window?_eq_none_iff.mp opened)
  | some window =>
    have adopted : ¬ Orphan (slots.map (·.level)) done done.length := by
      intro orphan
      cases (window?_eq_none_iff.mpr orphan).symm.trans opened
    have bounds (position : Nat) : (window.start ≤ position ∧ position < window.stop) ↔
        InWindow (slots.map (·.level)) headings done done.length position :=
      mem_window_iff ordered opened
    cases search : (between headings window.start window.stop).find?
        fun entry => slot.accepts entry.1 with
    | none =>
      have next : placeNext slots headings done slot = .missing window.parent := by
        simp [placeNext, opened, search]
      rw [next]
      refine .missing window.parent adopted ?_
      rintro position inside ⟨heading, found, accepted⟩
      obtain ⟨behind, before⟩ := (bounds position).mpr inside
      have refused := find?_between_eq_none slot.accepts search behind before found
      rw [accepted] at refused
      cases refused
    | some entry =>
      obtain ⟨heading, first⟩ := entry
      obtain ⟨behind, before, found, accepted, earlier⟩ :=
        find?_between_eq_some slot.accepts search
      have next : placeNext slots headings done slot = .found first
          (furtherHits slot (siblingAfter? slots done.length)
            (between headings (first + 1) window.stop)) := by
        simp [placeNext, opened, search, siblingAfter?]
      rw [next]
      refine .found first window.stop adopted ((bounds first).mp ⟨behind, before⟩)
        ⟨heading, found, accepted⟩ ?_ ?_
      · rintro position inside ⟨other, present, fitting⟩
        apply Nat.not_lt.mp
        intro ahead
        have refused := earlier position other ((bounds position).mpr inside).1 ahead present
        rw [fitting] at refused
        cases refused
      · intro position after
        rw [← bounds position]
        exact ⟨fun ahead => ⟨Nat.le_trans behind (Nat.le_of_lt after), ahead⟩, And.right⟩

theorem Ordered.take (ordered : Ordered placements) (count : Nat) :
    Ordered (placements.take count) := by
  have whole : Ordered (placements.take count ++ placements.drop count) := by
    rwa [List.take_append_drop]
  simp only [Ordered, List.flatMap_append] at whole
  exact (List.pairwise_append.mp whole).1

/-- One step keeps the slots in order: the next one starts behind all that is done. -/
theorem Ordered.step (ordered : Ordered done) (slot : Slot) :
    Ordered (done ++ [placeNext slots headings done slot]) := by
  have finds : Finds slots headings done done.length slot (placeNext slots headings done slot) :=
    placeNext_finds ordered
  simp only [Ordered, List.flatMap_append, List.flatMap_singleton]
  refine List.pairwise_append.mpr ⟨ordered, finds.pairwise, ?_⟩
  intro early before late member
  obtain ⟨earlier, held⟩ := mem_flatMap_hits_iff.mp before
  exact (finds.inWindow member).behind earlier (lt_length_of_mem_hitsAt held) early held

theorem ordered_placeFrom (ordered : Ordered done) :
    Ordered (placeFrom slots headings done rest) := by
  induction rest generalizing done with
  | nil => exact ordered
  | cons slot rest ih => exact ih (ordered.step slot)

theorem ordered_place : Ordered (place slots headings) :=
  ordered_placeFrom .nil

theorem prefix_placeFrom : done <+: placeFrom slots headings done rest := by
  induction rest generalizing done with
  | nil => exact List.prefix_refl done
  | cons slot rest ih => exact (List.prefix_append done _).trans ih

theorem length_placeFrom :
    (placeFrom slots headings done rest).length = done.length + rest.length := by
  induction rest generalizing done with
  | nil => rfl
  | cons slot rest ih =>
    rw [placeFrom, ih]
    simp [Nat.add_assoc, Nat.add_comm 1]

theorem length_place : (place slots headings).length = slots.length := by
  simp [place, length_placeFrom]

/-- Each placement of a run is the step from those before it. -/
theorem getElem?_placeFrom (found : rest[offset]? = some slot) :
    (placeFrom slots headings done rest)[done.length + offset]? =
      some (placeNext slots headings
        ((placeFrom slots headings done rest).take (done.length + offset)) slot) := by
  induction rest generalizing done offset with
  | nil => simp at found
  | cons first rest ih =>
    cases offset with
    | zero =>
      obtain rfl : first = slot := by simpa using found
      obtain ⟨behind, whole⟩ : done ++ [placeNext slots headings done first] <+:
          placeFrom slots headings done (first :: rest) := prefix_placeFrom
      rw [← whole]
      simp
    | succ offset =>
      have size : done.length + (offset + 1) =
          (done ++ [placeNext slots headings done first]).length + offset := by
        simp [Nat.add_assoc, Nat.add_comm 1]
      rw [placeFrom, size]
      exact ih (by simpa using found)

variable (headings) in
/-- Every slot finds what its window holds behind the slots before it. -/
theorem place_finds (found : slots[index]? = some slot) :
    ∃ placement, (place slots headings)[index]? = some placement ∧
      Finds slots headings (place slots headings) index slot placement := by
  have placed : (place slots headings)[([] : List Placement).length + index]? =
      some (placeNext slots headings
        ((place slots headings).take (([] : List Placement).length + index)) slot) :=
    getElem?_placeFrom found
  simp only [List.length_nil, Nat.zero_add] at placed
  refine ⟨_, placed, Finds.of_take ?_⟩
  have size : ((place slots headings).take index).length = index := by
    have bound := (List.getElem?_eq_some_iff.mp found).1
    simp [length_place, Nat.le_of_lt bound]
  have finds : Finds slots headings ((place slots headings).take index)
      ((place slots headings).take index).length slot
      (placeNext slots headings ((place slots headings).take index) slot) :=
    placeNext_finds (ordered_place.take index)
  rwa [size] at finds

end

end DocContract.Outline
