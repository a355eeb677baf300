import DocContract.Schema.Hierarchy

namespace DocContract.Hierarchy

private theorem getLast?_filter_range (keep : Nat → Bool) (size found : Nat) :
    ((List.range size).filter keep).getLast? = some found ↔
      found < size ∧ keep found = true ∧
        ∀ other, found < other → other < size → keep other = false := by
  induction size with
  | zero => simp
  | succ size ih =>
    rw [List.range_succ, List.filter_append]
    by_cases kept : keep size = true
    · simp only [List.filter_cons, kept, ↓reduceIte, List.filter_nil, List.getLast?_append,
        List.getLast?_singleton, Option.some_or, Option.some.injEq]
      constructor
      · rintro rfl
        exact ⟨Nat.lt_succ_self _, kept, fun other behind inside => by omega⟩
      · rintro ⟨inside, _, later⟩
        rcases Nat.lt_succ_iff_lt_or_eq.mp inside with before | same
        · simp [later size before (Nat.lt_succ_self _)] at kept
        · exact same.symm
    · have dropped : keep size = false := by simpa using kept
      simp only [List.filter_cons, dropped, Bool.false_eq_true, ↓reduceIte, List.filter_nil,
        List.append_nil]
      rw [ih]
      constructor
      · rintro ⟨inside, own, later⟩
        refine ⟨Nat.lt_succ_of_lt inside, own, ?_⟩
        intro other behind bounded
        rcases Nat.lt_succ_iff_lt_or_eq.mp bounded with before | same
        · exact later other behind before
        · exact same ▸ dropped
      · rintro ⟨inside, own, later⟩
        refine ⟨?_, own, fun other behind bounded =>
          later other behind (Nat.lt_succ_of_lt bounded)⟩
        rcases Nat.lt_succ_iff_lt_or_eq.mp inside with before | same
        · exact before
        · exact False.elim (kept (same ▸ own))

theorem parent?_eq_some_iff {levels : List UInt8} {index parent : Nat} :
    parent? levels index = some parent ↔
      parent < index ∧ levelAt levels parent < levelAt levels index ∧
        ∀ other, parent < other → other < index →
          levelAt levels index ≤ levelAt levels other := by
  simp only [parent?, getLast?_filter_range, decide_eq_true_eq, decide_eq_false_iff_not,
    UInt8.not_lt]

theorem parent?_eq_none_iff {levels : List UInt8} {index : Nat} :
    parent? levels index = none ↔
      ∀ other < index, levelAt levels index ≤ levelAt levels other := by
  simp [parent?]

/-- Behind an entry of a lesser level, an entry has a parent that is not before that one. -/
theorem exists_parent?_le {levels : List UInt8} {above index : Nat} (before : above < index)
    (lesser : levelAt levels above < levelAt levels index) :
    ∃ parent, parent? levels index = some parent ∧ above ≤ parent := by
  cases parentOf : parent? levels index with
  | none => exact absurd lesser (UInt8.not_lt.mpr (parent?_eq_none_iff.mp parentOf above before))
  | some parent =>
    refine ⟨parent, rfl, Nat.le_of_not_lt fun earlier => ?_⟩
    exact absurd lesser
      (UInt8.not_lt.mpr ((parent?_eq_some_iff.mp parentOf).2.2 above earlier before))

/-- Entries of one level have the same parent if none of a lesser level stands between them. -/
theorem parent?_eq_of_between {levels : List UInt8} {index next : Nat} (before : index < next)
    (same : levelAt levels next = levelAt levels index)
    (between : ∀ other, index < other → other < next →
      levelAt levels index ≤ levelAt levels other) :
    parent? levels next = parent? levels index := by
  apply Option.ext
  intro parent
  rw [parent?_eq_some_iff, parent?_eq_some_iff, same]
  constructor
  · rintro ⟨bounded, lesser, nearest⟩
    have ahead : parent < index := by
      apply Nat.lt_of_not_le
      intro after
      rcases Nat.eq_or_lt_of_le after with rfl | behind
      · exact UInt8.lt_irrefl _ lesser
      · exact absurd lesser (UInt8.not_lt.mpr (between parent behind bounded))
    exact ⟨ahead, lesser, fun other after early =>
      nearest other after (Nat.lt_trans early before)⟩
  · rintro ⟨ahead, lesser, nearest⟩
    refine ⟨Nat.lt_trans ahead before, lesser, ?_⟩
    intro other after early
    rcases Nat.lt_trichotomy other index with former | rfl | later
    · exact nearest other after former
    · exact UInt8.le_refl _
    · exact between other later early

/-- The next sibling of an entry is the first one behind it that is not deeper, if it has the same
level. -/
theorem nextSibling?_eq_some_iff {levels : List UInt8} {index next : Nat} :
    nextSibling? levels index = some next ↔
      index < next ∧ next < levels.length ∧ levelAt levels next = levelAt levels index ∧
        ∀ other, index < other → other < next →
          levelAt levels index < levelAt levels other := by
  simp only [nextSibling?, Option.filter_eq_some_iff, List.find?_range_eq_some, List.mem_range,
    Bool.and_eq_true, decide_eq_true_eq, Bool.not_eq_true', Bool.and_eq_false_iff,
    decide_eq_false_iff_not, beq_iff_eq, UInt8.not_le]
  constructor
  · rintro ⟨⟨⟨behind, _⟩, inside, deeper⟩, same⟩
    refine ⟨behind, inside, same, ?_⟩
    intro other after before
    exact (deeper other before).resolve_left (not_not_intro after)
  · rintro ⟨behind, inside, same, deeper⟩
    refine ⟨⟨⟨behind, UInt8.le_of_eq same⟩, inside, ?_⟩, same⟩
    intro other before
    by_cases after : index < other
    · exact .inr (deeper other after before)
    · exact .inl after

/-- The entry at `next` is the first one behind the other that has the same level and stands under
the same parent. -/
structure FollowsInFamily (levels : List UInt8) (index next : Nat) : Prop where
  behind : index < next
  inside : next < levels.length
  same : family levels next = family levels index
  nearest : ∀ other, index < other → other < next → family levels other ≠ family levels index

theorem nextSibling?_eq_some_iff_follows {levels : List UInt8} {index next : Nat} :
    nextSibling? levels index = some next ↔ FollowsInFamily levels index next := by
  rw [nextSibling?_eq_some_iff]
  constructor
  · rintro ⟨behind, inside, same, deeper⟩
    refine ⟨behind, inside, ?_, ?_⟩
    · have parents := parent?_eq_of_between behind same fun other after before =>
        UInt8.le_of_lt (deeper other after before)
      rw [family, family, parents, same]
    · intro other after before alike
      exact UInt8.ne_of_lt (deeper other after before) (congrArg Prod.snd alike).symm
  · rintro ⟨behind, inside, same, nearest⟩
    have level : levelAt levels next = levelAt levels index := congrArg Prod.snd same
    have parents : parent? levels next = parent? levels index := congrArg Prod.fst same
    have between (other : Nat) (after : index < other) (before : other < next) :
        levelAt levels index ≤ levelAt levels other := by
      apply UInt8.not_lt.mp
      intro lesser
      rw [← level] at lesser
      obtain ⟨parent, parentOf, late⟩ := exists_parent?_le before lesser
      rw [parents] at parentOf
      exact Nat.not_lt.mpr late (Nat.lt_trans (parent?_eq_some_iff.mp parentOf).1 after)
    refine ⟨behind, inside, level, ?_⟩
    intro other after before
    rcases UInt8.le_iff_lt_or_eq.mp (between other after before) with deeper | alike
    · exact deeper
    · have own := parent?_eq_of_between after alike.symm fun middle later early =>
        between middle later (Nat.lt_trans early before)
      exact absurd (by rw [family, family, own, alike]) (nearest other after before)

section

variable {levels : List UInt8} {index other next before : Nat}

theorem length_families (levels : List UInt8) : (families levels).length = levels.length := by
  simp [families]

theorem sibling_iff (inside : other < levels.length) :
    (families levels)[other]? = (families levels)[index]? ↔
      index < levels.length ∧ family levels other = family levels index := by
  have located (position : Nat) (bound : position < levels.length) :
      (families levels)[position]? = some (family levels position) := by
    simp [families, bound]
  rw [located other inside]
  constructor
  · intro same
    have bound : index < levels.length :=
      length_families levels ▸ (List.getElem?_eq_some_iff.mp same.symm).1
    rw [located index bound] at same
    exact ⟨bound, Option.some.inj same⟩
  · rintro ⟨bound, same⟩
    rw [located index bound, same]

theorem siblingAfter?_families (levels : List UInt8) (index : Nat) :
    siblingAfter? (families levels) index = nextSibling? levels index := by
  apply Option.ext
  intro next
  rw [nextSibling?_eq_some_iff_follows, siblingAfter?, siblings, List.filter_filter,
    List.head?_filter, List.find?_range_eq_some, length_families]
  simp only [List.mem_range, Bool.and_eq_true, decide_eq_true_eq, beq_iff_eq, Bool.not_eq_true',
    Bool.and_eq_false_iff, decide_eq_false_iff_not, beq_eq_false_iff_ne]
  constructor
  · rintro ⟨⟨behind, sibling⟩, inside, first⟩
    obtain ⟨bound, same⟩ := (sibling_iff inside).mp sibling
    refine ⟨behind, inside, same, ?_⟩
    intro other after early alike
    exact (first other early).resolve_left (not_not_intro after)
      ((sibling_iff (Nat.lt_trans early inside)).mpr ⟨bound, alike⟩)
  · rintro ⟨behind, inside, same, nearest⟩
    have bound := Nat.lt_trans behind inside
    refine ⟨⟨behind, (sibling_iff inside).mpr ⟨bound, same⟩⟩, inside, ?_⟩
    intro other early
    by_cases after : index < other
    · exact .inr fun alike => nearest other after early
        ((sibling_iff (Nat.lt_trans early inside)).mp alike).2
    · exact .inl after

theorem siblingBefore?_families_eq_some_iff :
    siblingBefore? (families levels) index = some before ↔
      nextSibling? levels before = some index := by
  rw [nextSibling?_eq_some_iff_follows, siblingBefore?, siblings, List.filter_filter,
    getLast?_filter_range, length_families]
  simp only [Bool.and_eq_true, decide_eq_true_eq, beq_iff_eq, Bool.and_eq_false_iff,
    decide_eq_false_iff_not, beq_eq_false_iff_ne]
  constructor
  · rintro ⟨inside, ⟨ahead, sibling⟩, last⟩
    obtain ⟨bound, same⟩ := (sibling_iff inside).mp sibling
    refine ⟨ahead, bound, same.symm, ?_⟩
    intro other behind early alike
    have within := Nat.lt_trans early bound
    exact (last other behind within).resolve_left (not_not_intro early)
      ((sibling_iff within).mpr ⟨bound, alike.trans same⟩)
  · rintro ⟨ahead, bound, same, nearest⟩
    have inside := Nat.lt_trans ahead bound
    refine ⟨inside, ⟨ahead, (sibling_iff inside).mpr ⟨bound, same.symm⟩⟩, ?_⟩
    intro other behind within
    by_cases early : other < index
    · exact .inr fun alike => nearest other behind early
        (((sibling_iff within).mp alike).2.trans same)
    · exact .inl early

end

theorem levelAt_map {level : α → UInt8} {items : List α} {item : α} {index : Nat}
    (found : items[index]? = some item) : levelAt (items.map level) index = level item := by
  simp [levelAt, found]

end DocContract.Hierarchy
