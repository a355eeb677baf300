import DocContract.Pathname

namespace DocContract.Pathname

namespace Step

theorem before_irrefl (step : Step) : step.before step = false := by
  cases step with
  | name text => simp [before]
  | _ => rfl

theorem before_trans {first second third : Step} (earlier : first.before second = true)
    (later : second.before third = true) : first.before third = true := by
  cases first <;> cases second <;> cases third <;>
    simp_all only [before, rank, decide_eq_true_eq, Nat.lt_irrefl, Nat.reduceLT]
  exact String.lt_trans earlier later

theorem eq_of_not_before {left right : Step} (notBefore : left.before right = false)
    (notBehind : right.before left = false) : left = right := by
  cases left <;> cases right <;>
    simp_all only [before, rank, decide_eq_false_iff_not, Nat.reduceLT, not_true_eq_false,
      String.not_lt]
  rw [String.le_antisymm notBehind notBefore]

theorem before_asymm {left right : Step} (before : left.before right = true) :
    right.before left = false := by
  cases behind : right.before left with
  | false => rfl
  | true => exact absurd (before_trans before behind) (by simp [before_irrefl])

end Step

section

variable {left right middle : Step} {lefts rights middles : List Step}

theorem stepsLe_cons_iff :
    stepsLe (left :: lefts) (right :: rights) = true ↔
      left.before right = true ∨ left = right ∧ stepsLe lefts rights = true := by
  rw [stepsLe]
  cases before : left.before right with
  | true => simp
  | false =>
    cases behind : right.before left with
    | true =>
      have distinct : left ≠ right := by
        rintro rfl
        simp [Step.before_irrefl] at behind
      simp [distinct]
    | false => simp [Step.eq_of_not_before before behind]

theorem stepsLe_total (lefts rights : List Step) :
    stepsLe lefts rights = true ∨ stepsLe rights lefts = true := by
  induction lefts generalizing rights with
  | nil => exact .inl rfl
  | cons left lefts ih =>
    cases rights with
    | nil => exact .inr rfl
    | cons right rights =>
      rw [stepsLe_cons_iff, stepsLe_cons_iff]
      cases before : left.before right with
      | true => exact .inl (.inl rfl)
      | false =>
        cases behind : right.before left with
        | true => exact .inr (.inl rfl)
        | false =>
          have same := Step.eq_of_not_before before behind
          rcases ih rights with inOrder | reversed
          · exact .inl (.inr ⟨same, inOrder⟩)
          · exact .inr (.inr ⟨same.symm, reversed⟩)

theorem stepsLe_trans (earlier : stepsLe lefts middles = true)
    (later : stepsLe middles rights = true) : stepsLe lefts rights = true := by
  induction lefts generalizing middles rights with
  | nil => rfl
  | cons left lefts ih =>
    cases middles with
    | nil => cases earlier
    | cons middle middles =>
      cases rights with
      | nil => cases later
      | cons right rights =>
        rw [stepsLe_cons_iff] at earlier later ⊢
        rcases earlier with before | ⟨rfl, earlier⟩
        · rcases later with behind | ⟨rfl, _⟩
          · exact .inl (Step.before_trans before behind)
          · exact .inl before
        · rcases later with behind | ⟨rfl, later⟩
          · exact .inl behind
          · exact .inr ⟨rfl, ih earlier later⟩

theorem stepsLe_antisymm (earlier : stepsLe lefts rights = true)
    (later : stepsLe rights lefts = true) : lefts = rights := by
  induction lefts generalizing rights with
  | nil =>
    cases rights with
    | nil => rfl
    | cons right rights => cases later
  | cons left lefts ih =>
    cases rights with
    | nil => cases earlier
    | cons right rights =>
      rw [stepsLe_cons_iff] at earlier later
      rcases earlier with before | ⟨rfl, earlier⟩
      · rcases later with behind | ⟨rfl, _⟩
        · simp [Step.before_asymm before] at behind
        · simp [Step.before_irrefl] at before
      · rcases later with behind | ⟨_, later⟩
        · simp [Step.before_irrefl] at behind
        · rw [ih earlier later]

end

theorem le_total (left right : String) : le left right = true ∨ le right left = true :=
  stepsLe_total (steps left) (steps right)

theorem le_trans {left middle right : String} (earlier : le left middle = true)
    (later : le middle right = true) : le left right = true :=
  stepsLe_trans earlier later

theorem steps_eq_of_le {left right : String} (earlier : le left right = true)
    (later : le right left = true) : steps left = steps right :=
  stepsLe_antisymm earlier later

end DocContract.Pathname
