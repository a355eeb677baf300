import DocContract.Identifier.Completion
import DocContract.Proofs.Identifier.Issues
import DocContract.Proofs.Outline.Scopes
import Mathlib.Logic.ExistsUnique

/-!
Which tasks are done: the tasks that have none inside their sections decide about all others.
-/

namespace DocContract.Identifier

open DocContract.Outline

/-- The section at the second position lies strictly inside that at the first: only deeper ones
stand between the two. -/
def Encloses (scopes : Scopes) (outer inner : Nat) : Prop :=
  ∃ opener, scopes[outer]? = some opener ∧ outer < inner ∧ inner < scopes.length ∧
    ∀ other scope, outer < other → other ≤ inner → scopes[other]? = some scope →
      opener.level < scope.level

/-- The second definition stands in a section strictly inside that of the first. -/
def StandsInside (scopes : Scopes) (outer inner : Occurrence) : Prop :=
  ∃ first second, outer.scope = some first ∧ inner.scope = some second ∧
    Encloses scopes first second

/-- The definitions at the positions are tasks, the second strictly inside the section of the
first. -/
def Nested (scopes : Scopes) (definitions : List Occurrence) (outer inner : Nat) : Prop :=
  ∃ first second, definitions[outer]? = some first ∧ definitions[inner]? = some second ∧
    first.hasTask = true ∧ second.hasTask = true ∧ StandsInside scopes first second

/-- The definition at the position is a task with another one strictly inside its section. -/
def IsParent (scopes : Scopes) (definitions : List Occurrence) (position : Nat) : Prop :=
  ∃ inner, Nested scopes definitions position inner

def Occurrence.marked (occurrence : Occurrence) (checked : Bool) : Occurrence :=
  { occurrence with checked }

/-- The definitions, done or not as the state has it for their positions. -/
def withChecked (definitions : List Occurrence) (state : Nat → Bool) : List Occurrence :=
  definitions.zipIdx.map fun (definition, position) => definition.marked (state position)

/-- The issue that the task at the position causes. -/
def completionIssueAt? (path : String) (scopes : Scopes) (definitions : List Occurrence)
    (position : Nat) : Option Issue :=
  (definitions[position]?.filter (·.hasTask)).bind
    (completionIssue? path scopes (definitions.filter (·.hasTask)))

section

variable {path : String} {scopes : Scopes} {definitions tasks : List Occurrence}
variable {definition task inner : Occurrence} {state others : Nat → Bool} {issue : Issue}
variable {first second third position : Nat}

theorem encloses_iff :
    Encloses scopes first second ↔ first ≠ second ∧ scopes.contains first second = true := by
  rw [Scopes.contains_iff]
  constructor
  · rintro ⟨opener, found, apart, inside, deeper⟩
    exact ⟨Nat.ne_of_lt apart, opener, found, Nat.le_of_lt apart, inside, deeper⟩
  · rintro ⟨distinct, opener, found, ordered, inside, deeper⟩
    exact ⟨opener, found, Nat.lt_of_le_of_ne ordered distinct, inside, deeper⟩

theorem Encloses.lt (encloses : Encloses scopes first second) : first < second := by
  obtain ⟨_, _, apart, _⟩ := encloses
  exact apart

theorem Encloses.trans (outer : Encloses scopes first second)
    (inner : Encloses scopes second third) : Encloses scopes first third := by
  have apart := Nat.lt_trans outer.lt inner.lt
  have holds := Scopes.contains_trans (encloses_iff.mp outer).2 (encloses_iff.mp inner).2
  exact encloses_iff.mpr ⟨Nat.ne_of_lt apart, holds⟩

theorem isInside_iff :
    isInside scopes definition inner = true ↔ StandsInside scopes definition inner := by
  unfold isInside StandsInside
  cases definition.scope with
  | none => simp
  | some first =>
    cases inner.scope with
    | none => simp
    | some second => simp [encloses_iff, ne_comm]

theorem Nested.trans (outer : Nested scopes definitions first second)
    (inner : Nested scopes definitions second third) : Nested scopes definitions first third := by
  obtain ⟨top, middle, found, present, tracked, _, above, own, placed, held, encloses⟩ := outer
  obtain ⟨again, bottom, same, located, _, isTask, repeated, below, holds, stands, deeper⟩ := inner
  obtain rfl := Option.some.inj (present.symm.trans same)
  obtain rfl := Option.some.inj (held.symm.trans holds)
  exact ⟨top, bottom, found, located, tracked, isTask, above, below, placed, stands,
    encloses.trans deeper⟩

/-- A task is fine if none stands inside its section, or if it is done exactly when all that do
are. -/
theorem completionIssue?_eq_none_iff :
    completionIssue? path scopes tasks task = none ↔
      ((∃ inner ∈ tasks, StandsInside scopes task inner) →
        (task.checked = true ↔ ∀ inner ∈ tasks, StandsInside scopes task inner →
          inner.checked = true)) := by
  have empty : (innerTasks scopes tasks task).isEmpty = true ↔
      ¬ ∃ inner ∈ tasks, StandsInside scopes task inner := by
    simp [innerTasks, isInside_iff]
  have done : (((innerTasks scopes tasks task).filter fun task => !task.checked).map
        Occurrence.id).isEmpty = true ↔
      ∀ inner ∈ tasks, StandsInside scopes task inner → inner.checked = true := by
    simp only [innerTasks, List.isEmpty_iff, List.map_eq_nil_iff, List.filter_eq_nil_iff,
      List.mem_filter, isInside_iff, Bool.not_eq_eq_eq_not, Bool.not_true, Bool.not_eq_false,
      and_imp]
  unfold completionIssue?
  rw [← done]
  simp only
  split
  · next none => exact iff_of_true rfl fun some => absurd some (empty.mp none)
  · next held =>
    have some := not_not.mp fun none => held (empty.mpr none)
    rw [forall_prop_of_true some]
    cases task.checked <;> cases (((innerTasks scopes tasks task).filter fun task =>
      !task.checked).map Occurrence.id).isEmpty <;> simp

theorem place_of_mem_completionIssue? (member : issue ∈ completionIssue? path scopes tasks task) :
    issue.line = some task.line ∧
      issue.code = if task.checked then .parentCheckedNestedUnchecked
        else .parentUncheckedAllDone := by
  unfold completionIssue? at member
  simp only at member
  split at member
  · cases member
  · split at member
    · next late =>
      obtain rfl := Option.some.inj member
      have unchecked : task.checked = false := by simpa using (Bool.and_eq_true_iff.mp late).1
      simp [allDoneIssue, Issue.ofEntries, unchecked]
    · split at member
      · next early =>
        obtain rfl := Option.some.inj member
        have checked := (Bool.and_eq_true_iff.mp early).1
        simp [openInsideIssue, Issue.ofEntries, checked]
      · cases member

private theorem filterMap_filter_eq_range {items : List α} {keep : α → Bool}
    {make : α → Option β} :
    (items.filter keep).filterMap make =
      (List.range items.length).filterMap fun index => (items[index]?.filter keep).bind make := by
  induction items with
  | nil => rfl
  | cons item items ih =>
    have rest : (fun index => ((item :: items)[index]?.filter keep).bind make) ∘ Nat.succ =
        fun index => (items[index]?.filter keep).bind make := rfl
    rw [List.length_cons, List.range_succ_eq_map, List.filterMap_cons, List.filterMap_map, rest,
      ← ih, List.filter_cons, List.getElem?_cons_zero]
    by_cases kept : keep item = true
    · rw [if_pos kept, Option.filter_some_pos kept, Option.bind_some, List.filterMap_cons]
    · rw [if_neg kept, Option.filter_some_neg (Bool.eq_false_iff.mpr kept), Option.bind_none]

theorem completionIssues_eq :
    completionIssues path scopes definitions =
      (List.range definitions.length).filterMap
        (completionIssueAt? path scopes definitions) :=
  filterMap_filter_eq_range

theorem getElem?_withChecked :
    (withChecked definitions state)[position]? =
      definitions[position]?.map fun definition => definition.marked (state position) := by
  simp [withChecked, Option.map_map, Function.comp_def]

theorem length_withChecked : (withChecked definitions state).length = definitions.length := by
  simp [withChecked]

theorem mem_tasks_withChecked_iff :
    task ∈ (withChecked definitions state).filter (·.hasTask) ↔
      ∃ inner second, definitions[inner]? = some second ∧ Occurrence.hasTask second = true ∧
        second.marked (state inner) = task := by
  rw [List.mem_filter, List.mem_iff_getElem?]
  simp only [getElem?_withChecked, Option.map_eq_some_iff]
  constructor
  · rintro ⟨⟨inner, second, found, rfl⟩, tracked⟩
    exact ⟨inner, second, found, tracked, rfl⟩
  · rintro ⟨inner, second, found, tracked, rfl⟩
    exact ⟨⟨inner, second, found, rfl⟩, tracked⟩

theorem nested_iff (found : definitions[position]? = some definition)
    (tracked : definition.hasTask = true) :
    Nested scopes definitions position first ↔
      ∃ second, definitions[first]? = some second ∧ second.hasTask = true ∧
        StandsInside scopes definition second := by
  constructor
  · rintro ⟨own, second, same, located, _, isTask, stands⟩
    obtain rfl := Option.some.inj (found.symm.trans same)
    exact ⟨second, located, isTask, stands⟩
  · rintro ⟨second, located, isTask, stands⟩
    exact ⟨definition, second, found, located, tracked, isTask, stands⟩

/-- The definition at a position causes no issue exactly if it is no parent, or done exactly when
all tasks nested in it are. -/
theorem completionIssueAt?_eq_none_iff (path : String) :
    completionIssueAt? path scopes (withChecked definitions state) position = none ↔
      (IsParent scopes definitions position →
        (state position = true ↔ ∀ inner, Nested scopes definitions position inner →
          state inner = true)) := by
  unfold completionIssueAt?
  rw [getElem?_withChecked]
  cases found : definitions[position]? with
  | none =>
    refine iff_of_true rfl ?_
    rintro ⟨_, _, _, own, _⟩
    cases found.symm.trans own
  | some definition =>
    rw [Option.map_some]
    by_cases tracked : definition.hasTask = true
    · have parent : (∃ inner ∈ (withChecked definitions state).filter (·.hasTask),
            StandsInside scopes (definition.marked (state position)) inner) ↔
          IsParent scopes definitions position := by
        simp only [mem_tasks_withChecked_iff, IsParent, nested_iff found tracked]
        constructor
        · rintro ⟨task, ⟨inner, second, located, isTask, rfl⟩, stands⟩
          exact ⟨inner, second, located, isTask, stands⟩
        · rintro ⟨inner, second, located, isTask, stands⟩
          exact ⟨second.marked (state inner), ⟨inner, second, located, isTask, rfl⟩, stands⟩
      have done : (∀ inner ∈ (withChecked definitions state).filter (·.hasTask),
            StandsInside scopes (definition.marked (state position)) inner →
              inner.checked = true) ↔
          ∀ inner, Nested scopes definitions position inner → state inner = true := by
        simp only [mem_tasks_withChecked_iff, nested_iff found tracked]
        constructor
        · rintro all inner ⟨second, located, isTask, stands⟩
          exact all _ ⟨inner, second, located, isTask, rfl⟩ stands
        · rintro all task ⟨inner, second, located, isTask, rfl⟩ stands
          exact all inner ⟨second, located, isTask, stands⟩
      have kept : (definition.marked (state position)).hasTask = true := tracked
      rw [Option.filter_some_pos kept, Option.bind_some, completionIssue?_eq_none_iff, parent, done]
      rfl
    · have dropped : (definition.marked (state position)).hasTask = false :=
        Bool.eq_false_iff.mpr tracked
      rw [Option.filter_some_neg dropped]
      refine iff_of_true rfl ?_
      rintro ⟨_, _, _, own, _, isTask, _⟩
      obtain rfl := Option.some.inj (found.symm.trans own)
      exact absurd isTask tracked

/-- Nothing is reported exactly if every parent is done exactly when all tasks nested in it are. -/
theorem completionIssues_eq_nil_iff_nested :
    completionIssues path scopes (withChecked definitions state) = [] ↔
      ∀ position, IsParent scopes definitions position →
        (state position = true ↔ ∀ inner, Nested scopes definitions position inner →
          state inner = true) := by
  rw [completionIssues_eq, List.filterMap_eq_nil_iff, length_withChecked]
  simp only [List.mem_range, completionIssueAt?_eq_none_iff]
  constructor
  · intro fine position parent
    have ⟨_, _, _, found, _⟩ := parent
    exact fine position (List.getElem?_eq_some_iff.mp found).1 parent
  · intro fine position _
    exact fine position

/-- Sections inside each other stand further and further down, so nesting ends. -/
theorem wellFounded_nested (scopes : Scopes) (definitions : List Occurrence) :
    WellFounded fun inner outer => Nested scopes definitions outer inner := by
  let depth (position : Nat) : Nat :=
    scopes.length - ((definitions[position]?.bind Occurrence.scope).getD 0)
  refine Subrelation.wf (r := (measure depth).rel) ?_ (measure depth).wf
  rintro inner outer ⟨_, _, found, present, _, _, first, second, placed, held, encloses⟩
  obtain ⟨_, _, apart, inside, _⟩ := encloses
  have start : (definitions[outer]?.bind Occurrence.scope).getD 0 = first := by
    simp [found, placed]
  have stop : (definitions[inner]?.bind Occurrence.scope).getD 0 = second := by
    simp [present, held]
  show scopes.length - _ < scopes.length - _
  omega

/-- Parents are done exactly when all tasks nested in them are, if and only if this holds with the
tasks alone that are no parents themselves. -/
theorem nested_iff_leaves :
    (∀ position, IsParent scopes definitions position →
        (state position = true ↔ ∀ inner, Nested scopes definitions position inner →
          state inner = true)) ↔
      ∀ position, IsParent scopes definitions position →
        (state position = true ↔ ∀ inner, Nested scopes definitions position inner →
          ¬ IsParent scopes definitions inner → state inner = true) := by
  constructor
  · intro fine position
    -- From the innermost parents outwards: what is nested in a parent is nested around it.
    induction position using (wellFounded_nested scopes definitions).induction with
    | _ position ih =>
      intro parent
      rw [fine position parent]
      constructor
      · intro all inner nested _
        exact all inner nested
      · intro leaves inner nested
        by_cases again : IsParent scopes definitions inner
        · refine (ih inner nested again).mpr fun leaf deeper single => ?_
          exact leaves leaf (nested.trans deeper) single
        · exact leaves inner nested again
  · intro fine position parent
    rw [fine position parent]
    constructor
    · intro leaves inner nested
      by_cases again : IsParent scopes definitions inner
      · refine (fine inner again).mpr fun leaf deeper single => ?_
        exact leaves leaf (nested.trans deeper) single
      · exact leaves inner nested again
    · intro all inner nested _
      exact all inner nested

/-- Nothing is reported exactly if every parent is done exactly when all tasks nested in it that
are no parents are. -/
theorem completionIssues_eq_nil_iff :
    completionIssues path scopes (withChecked definitions state) = [] ↔
      ∀ position, IsParent scopes definitions position →
        (state position = true ↔ ∀ inner, Nested scopes definitions position inner →
          ¬ IsParent scopes definitions inner → state inner = true) :=
  completionIssues_eq_nil_iff_nested.trans nested_iff_leaves

open Classical in
/-- The state in which the parents follow the other tasks. -/
noncomputable def followers (scopes : Scopes) (definitions : List Occurrence)
    (others : Nat → Bool) (position : Nat) : Bool :=
  if IsParent scopes definitions position then
    decide (∀ inner, Nested scopes definitions position inner →
      ¬ IsParent scopes definitions inner → others inner = true)
  else others position

theorem followers_of_not_isParent (single : ¬ IsParent scopes definitions position) :
    followers scopes definitions others position = others position :=
  if_neg single

open Classical in
theorem followers_iff (parent : IsParent scopes definitions position) :
    followers scopes definitions others position = true ↔
      ∀ inner, Nested scopes definitions position inner →
        ¬ IsParent scopes definitions inner → others inner = true := by
  rw [followers, if_pos parent]
  exact decide_eq_true_iff

theorem completionIssues_followers :
    completionIssues path scopes (withChecked definitions (followers scopes definitions others)) =
      [] := by
  rw [completionIssues_eq_nil_iff]
  intro position parent
  rw [followers_iff parent]
  refine forall_congr' fun inner => forall_congr' fun _ => forall_congr' fun single => ?_
  rw [followers_of_not_isParent single]

/-- Parents cause no issue only where they follow the other tasks. -/
theorem eq_followers
    (same : ∀ position, ¬ IsParent scopes definitions position → state position = others position)
    (fine : completionIssues path scopes (withChecked definitions state) = []) :
    state = followers scopes definitions others := by
  rw [completionIssues_eq_nil_iff] at fine
  funext position
  by_cases parent : IsParent scopes definitions position
  · rw [Bool.eq_iff_iff, fine position parent, followers_iff parent]
    refine forall_congr' fun inner => forall_congr' fun _ => forall_congr' fun single => ?_
    rw [same inner single]
  · rw [same position parent, followers_of_not_isParent parent]

theorem exists_completionIssueAt?_iff (path : String) :
    (∃ issue, completionIssueAt? path scopes (withChecked definitions state) position =
        some issue) ↔
      IsParent scopes definitions position ∧
        ¬ (state position = true ↔ ∀ inner, Nested scopes definitions position inner →
          state inner = true) := by
  rw [← Classical.not_imp, ← completionIssueAt?_eq_none_iff path, ← ne_eq,
    Option.ne_none_iff_exists']

theorem place_of_mem_completionIssueAt?
    (caused : completionIssueAt? path scopes (withChecked definitions state) position =
      some issue) :
    ∃ definition, definitions[position]? = some definition ∧
      issue.line = some definition.line ∧
      issue.code = if state position then .parentCheckedNestedUnchecked
        else .parentUncheckedAllDone := by
  obtain ⟨task, kept, reported⟩ := Option.bind_eq_some_iff.mp caused
  have held := (Option.filter_eq_some_iff.mp kept).1
  rw [getElem?_withChecked] at held
  obtain ⟨definition, found, rfl⟩ := Option.map_eq_some_iff.mp held
  exact ⟨definition, found, place_of_mem_completionIssue? reported⟩

end

/-- For every choice of what is done of the other tasks, the parents can be done in just one way
that causes no issue: each exactly when all tasks inside its section that are no parents are done.
In every state a definition causes at most one issue, and none but the parents that do not follow
the tasks inside their sections. -/
theorem completion_determined (path : String) (scopes : Scopes) (definitions : List Occurrence) :
    (∀ others : Nat → Bool, ∃! state : Nat → Bool,
      (∀ position, ¬ IsParent scopes definitions position → state position = others position) ∧
      completionIssues path scopes (withChecked definitions state) = []) ∧
    (∀ state, completionIssues path scopes (withChecked definitions state) = [] ↔
      ∀ position, IsParent scopes definitions position →
        (state position = true ↔ ∀ inner, Nested scopes definitions position inner →
          ¬ IsParent scopes definitions inner → state inner = true)) ∧
    ∀ state, ∃ reported : List (Nat × Issue),
      completionIssues path scopes (withChecked definitions state) = reported.map Prod.snd ∧
      (reported.map Prod.fst).Pairwise (· < ·) ∧
      (∀ position, position ∈ reported.map Prod.fst ↔
        IsParent scopes definitions position ∧
          ¬ (state position = true ↔ ∀ inner, Nested scopes definitions position inner →
            state inner = true)) ∧
      ∀ position issue, (position, issue) ∈ reported →
        ∃ definition, definitions[position]? = some definition ∧
          issue.line = some definition.line ∧
          issue.code = if state position then .parentCheckedNestedUnchecked
            else .parentUncheckedAllDone := by
  refine ⟨fun others => ?_, fun state => completionIssues_eq_nil_iff, fun state => ?_⟩
  · exact ⟨followers scopes definitions others,
      ⟨fun _ => followers_of_not_isParent, completionIssues_followers⟩,
      fun _ completed => eq_followers completed.1 completed.2⟩
  · obtain ⟨reported, made, ordered, member⟩ := exists_placed
      (completionIssueAt? path scopes (withChecked definitions state)) definitions.length
    refine ⟨reported, ?_, ordered, fun position => ?_, fun position issue held => ?_⟩
    · rw [completionIssues_eq, length_withChecked, made]
    · rw [← exists_completionIssueAt?_iff path]
      constructor
      · intro placed
        obtain ⟨⟨_, issue⟩, held, rfl⟩ := List.mem_map.mp placed
        exact ⟨issue, ((member _ issue).mp held).2⟩
      · rintro ⟨issue, caused⟩
        obtain ⟨definition, found, _⟩ := place_of_mem_completionIssueAt? caused
        have inside := (List.getElem?_eq_some_iff.mp found).1
        exact List.mem_map.mpr ⟨_, (member position issue).mpr ⟨inside, caused⟩, rfl⟩
    · exact place_of_mem_completionIssueAt? ((member position issue).mp held).2

end DocContract.Identifier
