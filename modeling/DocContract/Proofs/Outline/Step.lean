import DocContract.Proofs.Outline.Section

namespace DocContract.Outline

def Slot.Fits (slot : Slot) (headings : List Heading) (position : Nat) : Prop :=
  ∃ heading, headings[position]? = some heading ∧ slot.accepts heading = true

theorem Slot.level_of_accepts {slot : Slot} {heading : Heading}
    (accepted : slot.accepts heading = true) : heading.level = slot.level := by
  simp only [Slot.accepts, Bool.and_eq_true, beq_iff_eq] at accepted
  exact accepted.1

/-- The slot takes the heading as a further one: it need not leave it to its sibling. -/
def Slot.Repeats (slot : Slot) (sibling : Option Slot) (heading : Heading) : Prop :=
  slot.accepts heading = true ∧ ∀ other ∈ sibling, other.accepts heading = false

/-- The heading does not end the search for further headings of the slot. -/
def Slot.Passes (slot : Slot) (sibling : Option Slot) (heading : Heading) : Prop :=
  slot.level < heading.level ∨ slot.Repeats sibling heading

private theorem furtherHits_deeper {slot : Slot} {sibling : Option Slot} {heading : Heading}
    {position : Nat} (deeper : slot.level < heading.level) (rest : List (Heading × Nat)) :
    furtherHits slot sibling ((heading, position) :: rest) = furtherHits slot sibling rest := by
  simp [furtherHits, deeper]

private theorem furtherHits_repeats {slot : Slot} {sibling : Option Slot} {heading : Heading}
    {position : Nat} (repeated : slot.Repeats sibling heading) (rest : List (Heading × Nat)) :
    furtherHits slot sibling ((heading, position) :: rest) =
      position :: furtherHits slot sibling rest := by
  obtain ⟨accepted, free⟩ := repeated
  have level := Slot.level_of_accepts accepted
  cases sibling with
  | none => simp [furtherHits, level, accepted]
  | some other => simp [furtherHits, level, accepted, free other rfl]

private theorem furtherHits_ended {slot : Slot} {sibling : Option Slot} {heading : Heading}
    {position : Nat} (ended : ¬ slot.Passes sibling heading) (rest : List (Heading × Nat)) :
    furtherHits slot sibling ((heading, position) :: rest) = [] := by
  simp only [Slot.Passes, Slot.Repeats, not_or] at ended
  obtain ⟨level, foreign⟩ := ended
  cases sibling with
  | none => simpa [furtherHits, level] using foreign
  | some other => simpa [furtherHits, level] using foreign

/-- The slot takes the heading at the position as a further one, and none from `start` on ends the
search before it. -/
structure FurtherHit (slot : Slot) (sibling : Option Slot) (headings : List Heading)
    (start stop position : Nat) : Prop where
  behind : start ≤ position
  before : position < stop
  taken : ∃ heading, headings[position]? = some heading ∧ slot.Repeats sibling heading
  passed : ∀ other inner, start ≤ other → other < position → headings[other]? = some inner →
    slot.Passes sibling inner

section

variable {slot : Slot} {sibling : Option Slot} {headings : List Heading}
variable {start stop position : Nat}

private theorem FurtherHit.step_iff {first : Heading} (found : headings[start]? = some first)
    (passes : slot.Passes sibling first) (after : start < position) :
    FurtherHit slot sibling headings (start + 1) stop position ↔
      FurtherHit slot sibling headings start stop position := by
  constructor
  · rintro ⟨_, before, taken, passed⟩
    refine ⟨Nat.le_of_lt after, before, taken, ?_⟩
    intro other inner behind ahead present
    rcases Nat.eq_or_lt_of_le behind with same | further
    · subst same
      obtain rfl := Option.some.inj (found.symm.trans present)
      exact passes
    · exact passed other inner further ahead present
  · rintro ⟨_, before, taken, passed⟩
    exact ⟨after, before, taken, fun other inner behind =>
      passed other inner (Nat.le_of_succ_le behind)⟩

private theorem FurtherHit.here {first : Heading} (found : headings[start]? = some first)
    (hit : FurtherHit slot sibling headings start stop start) : slot.Repeats sibling first := by
  obtain ⟨heading, present, taken⟩ := hit.taken
  obtain rfl := Option.some.inj (found.symm.trans present)
  exact taken

/-- What the slot takes before a further heading is one as well. -/
theorem FurtherHit.earlier {other : Nat} {heading : Heading}
    (hit : FurtherHit slot sibling headings start stop position) (behind : start ≤ other)
    (before : other < position) (found : headings[other]? = some heading)
    (taken : slot.Repeats sibling heading) :
    FurtherHit slot sibling headings start stop other :=
  ⟨behind, Nat.lt_trans before hit.before, ⟨heading, found, taken⟩, fun between inner after ahead =>
    hit.passed between inner after (Nat.lt_trans ahead before)⟩

/-- The further headings of a slot are those that it takes before any heading ends the search. -/
theorem mem_furtherHits_iff :
    position ∈ furtherHits slot sibling (between headings start stop) ↔
      FurtherHit slot sibling headings start stop position := by
  apply between_induction (motive := fun start entries =>
    position ∈ furtherHits slot sibling entries ↔
      FurtherHit slot sibling headings start stop position)
  · intro start ended
    refine iff_of_false (by simp [furtherHits]) ?_
    rintro ⟨behind, before, ⟨heading, found, _⟩, _⟩
    obtain ⟨bound, _⟩ := List.getElem?_eq_some_iff.mp found
    rcases ended with missing | passed
    · have outside := List.getElem?_eq_none_iff.mp missing
      omega
    · omega
  · intro start first found inside ih
    have never (early : ¬ start < position) :
        position ∉ furtherHits slot sibling (between headings (start + 1) stop) :=
      fun member => early (ih.mp member).behind
    by_cases repeated : slot.Repeats sibling first
    · rw [furtherHits_repeats repeated, List.mem_cons]
      by_cases after : start < position
      · rw [ih, FurtherHit.step_iff found (.inr repeated) after]
        exact ⟨fun either => either.resolve_left (Nat.ne_of_gt after), .inr⟩
      · constructor
        · intro either
          obtain rfl := either.resolve_right (never after)
          exact ⟨Nat.le_refl _, inside, ⟨first, found, repeated⟩,
            fun other _ behind ahead => by omega⟩
        · intro hit
          exact .inl (Nat.le_antisymm (Nat.not_lt.mp after) hit.behind)
    · by_cases deeper : slot.level < first.level
      · rw [furtherHits_deeper deeper]
        by_cases after : start < position
        · rw [ih, FurtherHit.step_iff found (.inl deeper) after]
        · refine iff_of_false (never after) ?_
          intro hit
          obtain rfl := Nat.le_antisymm (Nat.not_lt.mp after) hit.behind
          exact repeated (hit.here found)
      · have ended : ¬ slot.Passes sibling first := not_or.mpr ⟨deeper, repeated⟩
        rw [furtherHits_ended ended]
        refine iff_of_false List.not_mem_nil ?_
        intro hit
        rcases Nat.eq_or_lt_of_le hit.behind with same | after
        · subst same
          exact repeated (hit.here found)
        · exact ended (hit.passed start first (Nat.le_refl _) after found)

theorem pairwise_furtherHits :
    (furtherHits slot sibling (between headings start stop)).Pairwise (· < ·) := by
  apply between_induction (motive := fun _ entries =>
    (furtherHits slot sibling entries).Pairwise (· < ·))
  · intro _ _
    simp [furtherHits]
  · intro start first _ _ ih
    by_cases repeated : slot.Repeats sibling first
    · rw [furtherHits_repeats repeated, List.pairwise_cons]
      exact ⟨fun later member => (mem_furtherHits_iff.mp member).behind, ih⟩
    · by_cases deeper : slot.level < first.level
      · rw [furtherHits_deeper deeper]
        exact ih
      · rw [furtherHits_ended (not_or.mpr ⟨deeper, repeated⟩)]
        exact List.Pairwise.nil

theorem deeper_of_furtherHits {next other : Nat} {more : List Nat} {heading : Heading}
    (hits : furtherHits slot sibling (between headings start stop) = next :: more)
    (behind : start ≤ other) (before : other < next) (found : headings[other]? = some heading) :
    slot.level < heading.level := by
  have hit : FurtherHit slot sibling headings start stop next :=
    mem_furtherHits_iff.mp (hits ▸ List.mem_cons_self)
  rcases hit.passed other heading behind before found with deeper | repeated
  · exact deeper
  · have member := mem_furtherHits_iff.mpr (hit.earlier behind before found repeated)
    have ordered : (furtherHits slot sibling (between headings start stop)).Pairwise (· < ·) :=
      pairwise_furtherHits
    rw [hits] at member ordered
    rcases List.mem_cons.mp member with same | later
    · omega
    · have after := List.rel_of_pairwise_cons ordered later
      omega

end

end DocContract.Outline
