import DocContract.Proofs.Outline.Section
import Mathlib.Order.MinMax

/-!
Outlines without the headings that are deeper than a level.  The others get new positions; sections
and ranges of the outline without details are those of the whole outline at these positions.
-/

namespace DocContract.Outline

/-- The heading is not deeper than the level. -/
def reaches (depth : UInt8) (heading : Heading) : Bool :=
  heading.level ≤ depth

/-- The headings that are not deeper than the level. -/
def withoutDetails (depth : UInt8) (headings : List Heading) : List Heading :=
  headings.filter (reaches depth)

/-- How many headings in front of the position are not deeper than the level.  This is the position
that the heading there has without details. -/
def rank (depth : UInt8) (headings : List Heading) (position : Nat) : Nat :=
  (headings.take position).countP (reaches depth)

/-- The heading at the position is not deeper than the level. -/
def KeptAt (depth : UInt8) (headings : List Heading) (position : Nat) : Prop :=
  ∃ heading, headings[position]? = some heading ∧ reaches depth heading = true

section

variable {depth : UInt8} {headings items : List Heading} {heading : Heading}
variable {position later start stop : Nat}

theorem rank_zero : rank depth headings 0 = 0 := by
  simp [rank]

theorem rank_add (position count : Nat) :
    rank depth headings (position + count) =
      rank depth headings position + rank depth (headings.drop position) count := by
  rw [rank, List.take_add, List.countP_append]
  rfl

theorem rank_succ (found : headings[position]? = some heading) :
    rank depth headings (position + 1) =
      rank depth headings position + if reaches depth heading = true then 1 else 0 := by
  rw [rank, List.take_add_one, found, List.countP_append, Option.toList_some,
    List.countP_singleton]
  rfl

theorem KeptAt.rank_succ (kept : KeptAt depth headings position) :
    rank depth headings (position + 1) = rank depth headings position + 1 := by
  obtain ⟨heading, found, reached⟩ := kept
  rw [Outline.rank_succ found, if_pos reached]

theorem monotone_rank : Monotone (rank depth headings) :=
  fun _ _ before => (List.take_prefix_take_left before).sublist.countP_le

theorem KeptAt.rank_lt (kept : KeptAt depth headings position) (before : position < later) :
    rank depth headings position < rank depth headings later := by
  have next : rank depth headings (position + 1) ≤ rank depth headings later :=
    monotone_rank before
  rwa [kept.rank_succ] at next

theorem rank_inj (kept : KeptAt depth headings position) (also : KeptAt depth headings later) :
    rank depth headings position = rank depth headings later ↔ position = later := by
  refine ⟨fun same => ?_, fun same => same ▸ rfl⟩
  rcases Nat.lt_trichotomy position later with before | equal | after
  · exact absurd same (Nat.ne_of_lt (kept.rank_lt before))
  · exact equal
  · exact absurd same.symm (Nat.ne_of_lt (also.rank_lt after))

theorem rank_max (position later : Nat) :
    rank depth headings (max position later) =
      max (rank depth headings position) (rank depth headings later) :=
  monotone_rank.map_max

theorem length_withoutDetails : (withoutDetails depth headings).length =
    rank depth headings headings.length := by
  rw [rank, List.take_length, List.countP_eq_length_filter]
  rfl

theorem drop_withoutDetails (position : Nat) :
    (withoutDetails depth headings).drop (rank depth headings position) =
      withoutDetails depth (headings.drop position) := by
  have cut : withoutDetails depth headings =
      (headings.take position).filter (reaches depth) ++
        withoutDetails depth (headings.drop position) := by
    rw [withoutDetails, withoutDetails, ← List.filter_append, List.take_append_drop]
  rw [cut, rank, List.countP_eq_length_filter, List.drop_left]

theorem getElem?_withoutDetails (found : headings[position]? = some heading)
    (reached : reaches depth heading = true) :
    (withoutDetails depth headings)[rank depth headings position]? = some heading := by
  obtain ⟨bound, rfl⟩ := List.getElem?_eq_some_iff.mp found
  have behind : (withoutDetails depth headings).drop (rank depth headings position) =
      headings[position] :: withoutDetails depth (headings.drop (position + 1)) := by
    rw [drop_withoutDetails, List.drop_eq_getElem_cons bound, withoutDetails,
      List.filter_cons_of_pos reached]
    rfl
  rw [← Nat.add_zero (rank depth headings position), ← List.getElem?_drop, behind]
  rfl

theorem KeptAt.getElem?_withoutDetails (kept : KeptAt depth headings position) :
    (withoutDetails depth headings)[rank depth headings position]? = headings[position]? := by
  obtain ⟨heading, found, reached⟩ := kept
  rw [found, Outline.getElem?_withoutDetails found reached]

theorem takeWhile_withoutDetails {wanted : Heading → Bool}
    (ends : ∀ heading, wanted heading = false → reaches depth heading = true) :
    (withoutDetails depth items).takeWhile wanted =
      withoutDetails depth (items.takeWhile wanted) := by
  rw [withoutDetails, List.takeWhile_filter, withoutDetails]
  congr 2
  funext heading
  cases stops : wanted heading with
  | true => exact Bool.or_true _
  | false => rw [ends heading stops]; rfl

/-- A section ends with a heading that is not deeper than its own, and this is no detail either. -/
theorem sectionEnd_withoutDetails (kept : KeptAt depth headings position) :
    sectionEnd (withoutDetails depth headings) (rank depth headings position) =
      rank depth headings (sectionEnd headings position) := by
  have next := kept.rank_succ
  obtain ⟨opener, found, reached⟩ := kept
  have ends (heading : Heading) (shallow : decide (opener.level < heading.level) = false) :
      reaches depth heading = true := by
    simp only [reaches, decide_eq_true_eq, decide_eq_false_iff_not, UInt8.not_lt] at *
    exact UInt8.le_trans shallow reached
  let deeper := fun heading : Heading => decide (opener.level < heading.level)
  have size (items : List Heading) : (withoutDetails depth (items.takeWhile deeper)).length =
      rank depth items (items.takeWhile deeper).length := by
    rw [rank, ← List.prefix_iff_eq_take.mp (List.takeWhile_prefix deeper), withoutDetails,
      List.countP_eq_length_filter]
  simp only [sectionEnd, found, getElem?_withoutDetails found reached]
  rw [← next, drop_withoutDetails, takeWhile_withoutDetails ends, size, ← rank_add]

/-- The entry with the position that its heading has without details. -/
def moved (depth : UInt8) (headings : List Heading) (entry : Heading × Nat) : Heading × Nat :=
  (entry.1, rank depth headings entry.2)

theorem between_withoutDetails (start stop : Nat) :
    between (withoutDetails depth headings) (rank depth headings start)
        (rank depth headings stop) =
      ((between headings start stop).filter fun entry => reaches depth entry.1).map
        (moved depth headings) := by
  apply between_induction (motive := fun start entries =>
    between (withoutDetails depth headings) (rank depth headings start)
        (rank depth headings stop) =
      (entries.filter fun entry => reaches depth entry.1).map (moved depth headings))
  · intro start ended
    apply between_eq_nil
    rcases ended with missing | passed
    · left
      rw [List.getElem?_eq_none_iff] at missing ⊢
      rw [length_withoutDetails]
      exact monotone_rank missing
    · exact .inr (monotone_rank passed)
  · intro start heading found inside ih
    by_cases reached : reaches depth heading = true
    · have kept : KeptAt depth headings start := ⟨heading, found, reached⟩
      rw [between_eq_cons (getElem?_withoutDetails found reached) (kept.rank_lt inside),
        ← kept.rank_succ, ih, List.filter_cons, if_pos reached]
      rfl
    · have same : rank depth headings (start + 1) = rank depth headings start := by
        rw [rank_succ found, if_neg reached, Nat.add_zero]
      rw [List.filter_cons, if_neg reached, ← ih, same]

end

end DocContract.Outline
