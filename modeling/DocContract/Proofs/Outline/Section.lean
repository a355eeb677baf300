import DocContract.Outline.Placement

namespace DocContract.Outline

/-- The position lies behind the heading at `opener` and inside the section that this opens: all
headings from there up to it are deeper. -/
def InSection (headings : List Heading) (opener position : Nat) : Prop :=
  ∃ head, headings[opener]? = some head ∧ opener < position ∧ position < headings.length ∧
    ∀ other inner, opener < other → other ≤ position → headings[other]? = some inner →
      head.level < inner.level

/-- What is made at some of the positions in front of `size`, each with the position that it was
made at. -/
theorem exists_placed (make : Nat → Option α) (size : Nat) :
    ∃ placed : List (Nat × α), (List.range size).filterMap make = placed.map Prod.snd ∧
      (placed.map Prod.fst).Pairwise (· < ·) ∧
      ∀ position item, (position, item) ∈ placed ↔
        position < size ∧ make position = some item := by
  refine ⟨(List.range size).filterMap fun position => (make position).map (position, ·), ?_, ?_, ?_⟩
  · rw [List.map_filterMap]
    simp only [Option.map_map, Function.comp_def, Option.map_id']
  · rw [List.map_filterMap]
    refine List.Pairwise.filterMap _ ?_ List.pairwise_lt_range
    intro position other before own made later follows
    obtain ⟨_, _, rfl⟩ := Option.map_eq_some_iff.mp (Option.map_map .. ▸ made)
    obtain ⟨_, _, rfl⟩ := Option.map_eq_some_iff.mp (Option.map_map .. ▸ follows)
    exact before
  · intro position item
    simp only [List.mem_filterMap, List.mem_range, Option.map_eq_some_iff, Prod.mk.injEq]
    constructor
    · rintro ⟨_, inside, _, made, rfl, rfl⟩
      exact ⟨inside, made⟩
    · rintro ⟨inside, made⟩
      exact ⟨position, inside, item, made, rfl, rfl⟩

private theorem lt_length_takeWhile {keep : α → Bool} {items : List α} {index : Nat} :
    index < (items.takeWhile keep).length ↔
      index < items.length ∧
        ∀ other item, other ≤ index → items[other]? = some item → keep item = true := by
  induction items generalizing index with
  | nil => simp
  | cons first rest ih =>
    by_cases kept : keep first = true
    · rw [List.takeWhile_cons_of_pos kept]
      cases index with
      | zero =>
        simp only [List.length_cons, Nat.zero_lt_succ, true_and, true_iff]
        intro other item bounded found
        obtain rfl := Nat.le_zero.mp bounded
        obtain rfl : first = item := by simpa using found
        exact kept
      | succ index =>
        simp only [List.length_cons, Nat.succ_lt_succ_iff, ih]
        refine and_congr_right fun _ => ⟨?_, ?_⟩
        · intro all other item bounded found
          cases other with
          | zero =>
            obtain rfl : first = item := by simpa using found
            exact kept
          | succ other =>
            exact all other item (Nat.le_of_succ_le_succ bounded) (by simpa using found)
        · intro all other item bounded found
          exact all (other + 1) item (Nat.succ_le_succ bounded) (by simpa using found)
    · rw [List.takeWhile_cons_of_neg kept]
      constructor
      · intro impossible
        simp at impossible
      · rintro ⟨_, all⟩
        exact absurd (all 0 first (Nat.zero_le _) rfl) kept

theorem lt_sectionEnd_iff {headings : List Heading} {opener position : Nat}
    (behind : opener < position) :
    position < sectionEnd headings opener ↔ InSection headings opener position := by
  obtain ⟨offset, rfl⟩ : ∃ offset, position = opener + 1 + offset :=
    ⟨position - (opener + 1), by omega⟩
  cases found : headings[opener]? with
  | none =>
    have outside := List.getElem?_eq_none_iff.mp found
    simp only [sectionEnd, found, InSection, reduceCtorEq, false_and, exists_false, iff_false]
    omega
  | some head =>
    simp only [sectionEnd, found, Nat.add_lt_add_iff_left, lt_length_takeWhile, List.length_drop,
      List.getElem?_drop, decide_eq_true_eq]
    constructor
    · rintro ⟨inside, deeper⟩
      refine ⟨head, found, behind, by omega, ?_⟩
      intro other inner after bounded present
      obtain ⟨gap, rfl⟩ : ∃ gap, other = opener + 1 + gap := ⟨other - (opener + 1), by omega⟩
      exact deeper gap inner (by omega) present
    · rintro ⟨_, same, _, inside, deeper⟩
      obtain rfl := Option.some.inj (found.symm.trans same)
      refine ⟨by omega, ?_⟩
      intro gap inner bounded present
      exact deeper (opener + 1 + gap) inner (by omega) (by omega) present

theorem between_eq_nil {headings : List Heading} {start stop : Nat}
    (ended : headings[start]? = none ∨ stop ≤ start) : between headings start stop = [] := by
  rcases ended with missing | passed
  · have outside : headings.length ≤ start := List.getElem?_eq_none_iff.mp missing
    simp [between, List.drop_eq_nil_of_le, outside]
  · simp [between, Nat.sub_eq_zero_of_le passed]

theorem between_eq_cons {headings : List Heading} {start stop : Nat} {heading : Heading}
    (found : headings[start]? = some heading) (inside : start < stop) :
    between headings start stop = (heading, start) :: between headings (start + 1) stop := by
  obtain ⟨bound, rfl⟩ := List.getElem?_eq_some_iff.mp found
  have size : stop - start = stop - (start + 1) + 1 := by omega
  simp only [between]
  rw [List.drop_eq_getElem_cons (by simpa using bound), size, List.take_succ_cons]
  simp

/-- Induction over a range of headings from its start on. -/
theorem between_induction {headings : List Heading} {stop : Nat}
    {motive : Nat → List (Heading × Nat) → Prop}
    (ended : ∀ start, headings[start]? = none ∨ stop ≤ start → motive start [])
    (next : ∀ start heading, headings[start]? = some heading → start < stop →
      motive (start + 1) (between headings (start + 1) stop) →
      motive start ((heading, start) :: between headings (start + 1) stop)) (start : Nat) :
    motive start (between headings start stop) := by
  induction size : stop - start generalizing start with
  | zero =>
    have passed : headings[start]? = none ∨ stop ≤ start := .inr (by omega)
    rw [between_eq_nil passed]
    exact ended start passed
  | succ size ih =>
    cases found : headings[start]? with
    | none =>
      rw [between_eq_nil (.inl found)]
      exact ended start (.inl found)
    | some heading =>
      have inside : start < stop := by omega
      rw [between_eq_cons found inside]
      exact next start heading found inside (ih (start + 1) (by omega))

theorem mem_between_iff {headings : List Heading} {start stop position : Nat} {heading : Heading} :
    (heading, position) ∈ between headings start stop ↔
      start ≤ position ∧ position < stop ∧ headings[position]? = some heading := by
  apply between_induction (motive := fun start entries =>
    (heading, position) ∈ entries ↔
      start ≤ position ∧ position < stop ∧ headings[position]? = some heading)
  · intro start ended
    simp only [List.not_mem_nil, false_iff]
    rintro ⟨behind, before, found⟩
    obtain ⟨bound, _⟩ := List.getElem?_eq_some_iff.mp found
    rcases ended with missing | passed
    · have outside := List.getElem?_eq_none_iff.mp missing
      omega
    · omega
  · intro start first found inside ih
    rw [List.mem_cons, ih]
    constructor
    · rintro (same | ⟨after, before, present⟩)
      · obtain ⟨rfl, rfl⟩ := Prod.mk.inj same
        exact ⟨Nat.le_refl _, inside, found⟩
      · exact ⟨Nat.le_of_succ_le after, before, present⟩
    · rintro ⟨behind, before, present⟩
      rcases Nat.eq_or_lt_of_le behind with same | after
      · subst same
        obtain rfl := Option.some.inj (found.symm.trans present)
        exact .inl rfl
      · exact .inr ⟨after, before, present⟩

theorem find?_between_eq_none {headings : List Heading} {start stop position : Nat}
    (keep : Heading → Bool) {heading : Heading}
    (nothing : ((between headings start stop).find? fun entry => keep entry.1) = none)
    (behind : start ≤ position) (before : position < stop)
    (found : headings[position]? = some heading) : keep heading = false := by
  have dropped := List.find?_eq_none.mp nothing (heading, position)
    (mem_between_iff.mpr ⟨behind, before, found⟩)
  simpa using dropped

theorem find?_between_eq_some {headings : List Heading} {start stop : Nat}
    (keep : Heading → Bool) {heading : Heading} {position : Nat}
    (found : ((between headings start stop).find? fun entry => keep entry.1) =
      some (heading, position)) :
    start ≤ position ∧ position < stop ∧ headings[position]? = some heading ∧
      keep heading = true ∧
      ∀ other inner, start ≤ other → other < position → headings[other]? = some inner →
        keep inner = false := by
  revert found
  apply between_induction (motive := fun start entries =>
    (entries.find? fun entry => keep entry.1) = some (heading, position) →
      start ≤ position ∧ position < stop ∧ headings[position]? = some heading ∧
        keep heading = true ∧
        ∀ other inner, start ≤ other → other < position → headings[other]? = some inner →
          keep inner = false)
  · intro start _ found
    simp at found
  · intro start first present inside ih found
    by_cases kept : keep first = true
    · obtain ⟨rfl, rfl⟩ : first = heading ∧ start = position := by simpa [kept] using found
      exact ⟨Nat.le_refl _, inside, present, kept, fun other _ behind before => by omega⟩
    · obtain ⟨behind, before, own, fits, earlier⟩ := ih (by simpa [kept] using found)
      refine ⟨Nat.le_of_succ_le behind, before, own, fits, ?_⟩
      intro other inner after ahead located
      rcases Nat.eq_or_lt_of_le after with same | later
      · subst same
        obtain rfl := Option.some.inj (present.symm.trans located)
        simpa using kept
      · exact earlier other inner later ahead located

end DocContract.Outline
