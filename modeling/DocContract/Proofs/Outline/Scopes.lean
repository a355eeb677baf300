import DocContract.Outline.Check
import DocContract.Proofs.Outline.Scanning
import DocContract.Proofs.Outline.Section

/-!
What it means to be inside a section: the test on levels, the open sections while headings are read,
the search for the end of a section and the search by lines all say the same.
-/

namespace DocContract.Outline.Scopes

variable {scopes : Scopes} {entries : List (Heading × Option String)}
variable {around : List (UInt8 × Option String)} {outer inner first second position line : Nat}

/-- A section holds itself and the sections behind it as long as these are deeper. -/
theorem contains_iff :
    scopes.contains outer inner = true ↔
      ∃ opener, scopes[outer]? = some opener ∧ outer ≤ inner ∧ inner < scopes.length ∧
        ∀ other scope, outer < other → other ≤ inner → scopes[other]? = some scope →
          opener.level < scope.level := by
  unfold contains
  cases found : scopes[outer]? with
  | none => simp
  | some opener =>
    simp only [Bool.and_eq_true, decide_eq_true_eq, List.all_eq_true, Option.some.injEq,
      exists_eq_left', and_assoc]
    refine and_congr_right fun ordered => and_congr_right fun inside => ?_
    constructor
    · intro deeper other scope after bounded present
      refine deeper scope (List.mem_iff_getElem?.mpr ⟨other - (outer + 1), ?_⟩)
      rw [List.getElem?_take_of_lt (by omega), List.getElem?_drop]
      rw [← present]
      congr 1
      omega
    · intro deeper scope member
      obtain ⟨offset, present⟩ := List.mem_iff_getElem?.mp member
      rw [List.getElem?_take] at present
      split at present
      · rw [List.getElem?_drop] at present
        exact deeper _ scope (by omega) (by omega) present
      · cases present

theorem contains_trans (holds : scopes.contains first second = true)
    (held : scopes.contains second position = true) : scopes.contains first position = true := by
  obtain ⟨opener, found, ordered, _, deeper⟩ := contains_iff.mp holds
  rcases Nat.eq_or_lt_of_le ordered with rfl | apart
  · exact held
  · obtain ⟨middle, present, after, inside, deepest⟩ := contains_iff.mp held
    refine contains_iff.mpr ⟨opener, found, Nat.le_trans ordered after, inside, ?_⟩
    intro other scope behind bounded located
    rcases Nat.lt_or_ge second other with beyond | before
    · have between := deeper second middle apart (Nat.le_refl _) present
      exact UInt8.lt_trans between (deepest other scope beyond bounded located)
    · exact deeper other scope behind before located

theorem contains_of_le (ordered : first ≤ second)
    (holds : scopes.contains first position = true)
    (held : scopes.contains second position = true) : scopes.contains first second = true := by
  obtain ⟨opener, found, _, inside, deeper⟩ := contains_iff.mp holds
  obtain ⟨_, _, bounded, _, _⟩ := contains_iff.mp held
  exact contains_iff.mpr ⟨opener, found, ordered, Nat.lt_of_le_of_lt bounded inside,
    fun other scope after before => deeper other scope after (Nat.le_trans before bounded)⟩

theorem nested_or_apart (scopes : Scopes) (first second : Nat) :
    (∀ position, scopes.contains second position = true → scopes.contains first position = true) ∨
    (∀ position, scopes.contains first position = true → scopes.contains second position = true) ∨
    ∀ position, ¬ (scopes.contains first position = true ∧
      scopes.contains second position = true) := by
  by_cases shared : ∃ position, scopes.contains first position = true ∧
      scopes.contains second position = true
  · obtain ⟨position, holds, held⟩ := shared
    rcases Nat.le_total first second with ordered | ordered
    · exact .inl fun _ => contains_trans (contains_of_le ordered holds held)
    · exact .inr (.inl fun _ => contains_trans (contains_of_le ordered held holds))
  · exact .inr (.inr fun position both => shared ⟨position, both⟩)

theorem map_buildFrom (around : List (UInt8 × Option String))
    (entries : List (Heading × Option String)) :
    (buildFrom around entries).map (fun scope => (scope.line, scope.level)) =
      entries.map fun entry => (entry.1.line, entry.1.level) := by
  induction entries generalizing around with
  | nil => rfl
  | cons entry rest ih =>
    obtain ⟨heading, id⟩ := entry
    rw [buildFrom, List.map_cons, ih, List.map_cons]

theorem length_buildFrom : (buildFrom around entries).length = entries.length := by
  simpa using congrArg List.length (map_buildFrom around entries)

theorem contains_cons_succ {scope : Scope} :
    contains (scope :: scopes) (outer + 1) (inner + 1) = contains scopes outer inner := by
  simp [contains, Nat.add_sub_add_right]

theorem contains_cons_zero {scope : Scope} :
    contains (scope :: scopes) 0 inner =
      (decide (inner ≤ scopes.length) && (scopes.take inner).all fun other =>
        scope.level < other.level) := by
  simp only [contains, List.getElem?_cons_zero, List.length_cons, Nat.lt_succ_iff, Nat.zero_le,
    decide_true, Bool.true_and, Nat.zero_add, List.drop_succ_cons, List.drop_zero, Nat.sub_zero]

def idsWithin (scopes : Scopes) (entries : List (Heading × Option String)) (position : Nat) :
    List String :=
  ((List.range entries.length).filter fun outer => scopes.contains outer position).filterMap
    fun outer => entries[outer]?.bind Prod.snd

/-- The ids of those of the open sections that still hold the position, the outermost first. -/
def idsAround (around : List (UInt8 × Option String)) (scopes : Scopes) (position : Nat) :
    List String :=
  ((around.filter fun opened => (scopes.take (position + 1)).all fun scope =>
    opened.1 < scope.level).filterMap Prod.snd).reverse

/-- Of open sections that get shallower outwards, those that a heading ends are the inner ones. -/
theorem dropWhile_eq_filter {level : UInt8}
    (nested : around.Pairwise fun inner outer => outer.1 < inner.1) :
    (around.dropWhile fun opened => level ≤ opened.1) =
      around.filter fun opened => opened.1 < level := by
  induction around with
  | nil => rfl
  | cons opened rest ih =>
    obtain ⟨outwards, further⟩ := List.pairwise_cons.mp nested
    by_cases ended : level ≤ opened.1
    · rw [List.dropWhile_cons_of_pos (by simpa using ended), ih further,
        List.filter_cons_of_neg (by simpa using ended)]
    · have shallow : opened.1 < level := UInt8.not_le.mp ended
      rw [List.dropWhile_cons_of_neg (by simpa using ended),
        List.filter_cons_of_pos (by simpa using shallow), List.filter_eq_self.mpr]
      intro outer member
      simpa using UInt8.lt_trans (outwards outer member) shallow

theorem idsAround_cons {level : UInt8} {id : Option String} :
    idsAround ((level, id) :: around) scopes position =
      idsAround around scopes position ++
        if (scopes.take (position + 1)).all fun scope => level < scope.level then id.toList
        else [] := by
  unfold idsAround
  rw [List.filter_cons]
  split
  · cases id <;> simp
  · simp

theorem idsAround_filter {scope : Scope} :
    idsAround (around.filter fun opened => opened.1 < scope.level) scopes position =
      idsAround around (scope :: scopes) (position + 1) := by
  unfold idsAround
  rw [List.filter_filter]
  congr 3
  funext opened
  rw [List.take_succ_cons, List.all_cons, Bool.and_comm]

theorem idsWithin_zero {scope : Scope} {heading : Heading} {id : Option String} :
    idsWithin (scope :: scopes) ((heading, id) :: entries) 0 = id.toList := by
  have later (outer : Nat) : contains (scope :: scopes) (outer + 1) 0 = false := by
    rw [Bool.eq_false_iff]
    intro holds
    obtain ⟨_, _, ordered, _⟩ := contains_iff.mp holds
    exact Nat.not_succ_le_zero _ ordered
  have none : ((List.range entries.length).filter fun outer =>
      contains (scope :: scopes) (outer + 1) 0) = [] :=
    List.filter_eq_nil_iff.mpr fun outer _ => by simp [later]
  cases id <;>
    simp [idsWithin, List.range_succ_eq_map, contains_cons_zero, List.filter_map, Function.comp_def,
      none]

theorem idsWithin_succ {scope : Scope} {heading : Heading} {id : Option String} :
    idsWithin (scope :: scopes) ((heading, id) :: entries) (position + 1) =
      (if contains (scope :: scopes) 0 (position + 1) then id.toList else []) ++
        idsWithin scopes entries position := by
  unfold idsWithin
  rw [List.length_cons, List.range_succ_eq_map, List.filter_cons, List.filter_map]
  simp only [Function.comp_def, Nat.succ_eq_add_one, contains_cons_succ]
  split
  · cases id <;> simp [List.filterMap_map]
  · simp [List.filterMap_map]

/-- The ids that a section is recorded with are those of the sections that were open before, as far
as they still are, and of those in the list that hold it. -/
theorem active_buildFrom (nested : around.Pairwise fun inner outer => outer.1 < inner.1)
    (inside : position < entries.length) :
    ((buildFrom around entries)[position]?).map (·.active) =
      some (idsAround around (buildFrom around entries) position ++
        idsWithin (buildFrom around entries) entries position) := by
  induction entries generalizing around position with
  | nil => cases inside
  | cons entry rest ih =>
    obtain ⟨heading, id⟩ := entry
    rw [buildFrom, dropWhile_eq_filter nested]
    cases position with
    | zero =>
      rw [idsWithin_zero]
      cases id <;> simp [idsAround]
    | succ position =>
      have held : position < rest.length := Nat.lt_of_succ_lt_succ inside
      have opened : ((heading.level, id) ::
          around.filter fun opened => opened.1 < heading.level).Pairwise
            fun inner outer => outer.1 < inner.1 := by
        refine List.pairwise_cons.mpr ⟨?_, nested.filter _⟩
        intro outer member
        simpa using (List.mem_filter.mp member).2
      have size : position + 1 ≤ (buildFrom ((heading.level, id) ::
          around.filter fun opened => opened.1 < heading.level) rest).length := by
        rw [length_buildFrom]
        exact held
      rw [List.getElem?_cons_succ, ih opened held, idsAround_cons, idsWithin_succ,
        ← idsAround_filter, contains_cons_zero, decide_eq_true size, Bool.true_and,
        List.append_assoc]

def begins (scopes : Scopes) (line position : Nat) : Bool :=
  scopes[position]?.any fun scope => scope.line ≤ line

/-- If the sections that start no later than the line come first, halving finds the last of them, or
the first position where there is none. -/
theorem searchFrom_latest {start size : Nat}
    (leading : ∀ earlier later, earlier ≤ later → begins scopes line later = true →
      begins scopes line earlier = true)
    (begun : start = 0 ∨ begins scopes line start = true)
    (ended : ∀ later, start + size ≤ later → begins scopes line later = false) :
    (searchFrom scopes line start size = 0 ∨
        begins scopes line (searchFrom scopes line start size) = true) ∧
      ∀ later, searchFrom scopes line start size < later → begins scopes line later = false := by
  fun_induction searchFrom scopes line start size with
  | case1 start size small => exact ⟨begun, fun later after => ended later (by omega)⟩
  | case2 start size large half middle next ih =>
    by_cases reached : begins scopes line middle = true
    · have taken : next = middle := if_pos reached
      rw [taken] at ih ⊢
      exact ih (.inr reached) fun later after => ended later (by omega)
    · have kept : next = start := if_neg reached
      rw [kept] at ih ⊢
      refine ih begun fun later after => Bool.eq_false_iff.mpr fun held => ?_
      exact reached (leading middle later (by omega) held)

theorem begins_of_sectionAt? (found : scopes.sectionAt? line = some position) :
    begins scopes line position = true := by
  obtain ⟨held, same⟩ := Option.ite_none_right_eq_some.mp found
  exact Option.some.inj same ▸ held

theorem sectionAt?_latest
    (leading : ∀ earlier later, earlier ≤ later → begins scopes line later = true →
      begins scopes line earlier = true) :
    (∃ position, scopes.sectionAt? line = some position ∧ begins scopes line position = true ∧
        ∀ later, position < later → begins scopes line later = false) ∨
      scopes.sectionAt? line = none ∧ ∀ position, begins scopes line position = false := by
  have outside (later : Nat) (after : 0 + scopes.length ≤ later) :
      begins scopes line later = false := by
    rw [Nat.zero_add] at after
    simp [begins, List.getElem?_eq_none after]
  obtain ⟨begun, latest⟩ := searchFrom_latest leading (.inl rfl) outside
  by_cases held : begins scopes line (searchFrom scopes line 0 scopes.length) = true
  · exact .inl ⟨_, if_pos held, held, latest⟩
  · refine .inr ⟨if_neg held, fun position => ?_⟩
    have first := begun.resolve_right held
    rw [first] at held latest
    rcases Nat.eq_zero_or_pos position with rfl | behind
    · exact Bool.eq_false_iff.mpr held
    · exact latest position behind

end DocContract.Outline.Scopes

namespace DocContract.Outline

open Scopes

/-- Where the line stands: in the section of the last heading that is not behind it, or in front of
all headings. -/
inductive StandsIn (headings : List Heading) (line : Nat) : Option Nat → Prop where
  | inside (position : Nat) (heading : Heading) (found : headings[position]? = some heading)
      (begun : heading.line ≤ line)
      (latest : ∀ later other, position < later → headings[later]? = some other →
        line < Heading.line other) : StandsIn headings line (some position)
  | front (behind : ∀ heading ∈ headings, line < Heading.line heading) :
      StandsIn headings line none

section

variable {entries : List (Heading × Option String)} {heading : Heading} {text : String}
variable {outer inner position line : Nat}

theorem map_getElem?_build (entries : List (Heading × Option String)) (position : Nat) :
    (build entries)[position]?.map (fun scope => (scope.line, scope.level)) =
      (entries.map Prod.fst)[position]?.map fun heading => (heading.line, heading.level) := by
  have pairs := map_buildFrom [] entries
  rw [← List.getElem?_map, ← List.getElem?_map, List.map_map]
  exact congrArg (·[position]?) pairs

theorem exists_scope (found : (entries.map Prod.fst)[position]? = some heading) :
    ∃ scope, (build entries)[position]? = some scope ∧ scope.line = heading.line ∧
      scope.level = heading.level := by
  have same := map_getElem?_build entries position
  rw [found] at same
  obtain ⟨scope, present, pair⟩ := Option.map_eq_some_iff.mp same
  exact ⟨scope, present, Prod.mk.inj pair⟩

theorem exists_heading {scope : Scope} (found : (build entries)[position]? = some scope) :
    ∃ heading, (entries.map Prod.fst)[position]? = some heading ∧ scope.line = heading.line ∧
      scope.level = heading.level := by
  have same := map_getElem?_build entries position
  rw [found] at same
  obtain ⟨heading, present, pair⟩ := Option.map_eq_some_iff.mp same.symm
  exact ⟨heading, present, Prod.mk.inj pair.symm⟩

theorem length_build : (build entries).length = (entries.map Prod.fst).length := by
  rw [build, length_buildFrom, List.length_map]

/-- Strictly inside a section means behind its heading with only deeper ones since. -/
theorem contains_build_iff_inSection (apart : outer < inner) :
    (build entries).contains outer inner = true ↔
      InSection (entries.map Prod.fst) outer inner := by
  rw [contains_iff, length_build]
  constructor
  · rintro ⟨opener, found, _, inside, deeper⟩
    obtain ⟨head, present, _, level⟩ := exists_heading found
    refine ⟨head, present, apart, inside, ?_⟩
    intro other heading after bounded located
    obtain ⟨scope, held, _, depth⟩ := exists_scope located
    rw [← level, ← depth]
    exact deeper other scope after bounded held
  · rintro ⟨head, found, _, inside, deeper⟩
    obtain ⟨opener, present, _, level⟩ := exists_scope found
    refine ⟨opener, present, Nat.le_of_lt apart, inside, ?_⟩
    intro other scope after bounded held
    obtain ⟨heading, located, _, depth⟩ := exists_heading held
    rw [level, depth]
    exact deeper other heading after bounded located

/-- The test on levels and the search for the end of the section agree. -/
theorem contains_build_iff :
    (build entries).contains outer inner = true ↔
      outer ≤ inner ∧ inner < sectionEnd (entries.map Prod.fst) outer := by
  rcases Nat.lt_trichotomy outer inner with apart | rfl | behind
  · rw [contains_build_iff_inSection apart, lt_sectionEnd_iff apart]
    exact (and_iff_right (Nat.le_of_lt apart)).symm
  · rw [and_iff_right (Nat.le_refl _), contains_iff, length_build]
    cases found : (entries.map Prod.fst)[outer]? with
    | none =>
      have outside := List.getElem?_eq_none_iff.mp found
      simp only [sectionEnd, found]
      omega
    | some head =>
      obtain ⟨opener, present, _⟩ := exists_scope found
      have inside := (List.getElem?_eq_some_iff.mp found).1
      refine iff_of_true ⟨opener, present, Nat.le_refl _, inside, ?_⟩ ?_
      · intro other _ after bounded
        exact absurd after (Nat.not_lt.mpr bounded)
      · simp only [sectionEnd, found]
        omega
  · refine iff_of_false ?_ fun ordered => absurd behind (Nat.not_lt.mpr ordered.1)
    intro holds
    obtain ⟨_, _, ordered, _⟩ := contains_iff.mp holds
    exact absurd behind (Nat.not_lt.mpr ordered)

theorem begins_build_iff :
    begins (build entries) line position = true ↔
      ∃ heading, (entries.map Prod.fst)[position]? = some heading ∧ heading.line ≤ line := by
  simp only [begins, Option.any_eq_true, decide_eq_true_eq]
  constructor
  · rintro ⟨scope, found, begun⟩
    obtain ⟨heading, present, same, _⟩ := exists_heading found
    exact ⟨heading, present, same ▸ begun⟩
  · rintro ⟨heading, found, begun⟩
    obtain ⟨scope, present, same, _⟩ := exists_scope found
    exact ⟨scope, present, same ▸ begun⟩

theorem standsIn_sectionAt?
    (increasing : (entries.map Prod.fst).Pairwise fun first second => first.line < second.line)
    (line : Nat) :
    StandsIn (entries.map Prod.fst) line ((build entries).sectionAt? line) := by
  have leading (earlier later : Nat) (ordered : earlier ≤ later)
      (begun : begins (build entries) line later = true) :
      begins (build entries) line earlier = true := by
    obtain ⟨heading, found, before⟩ := begins_build_iff.mp begun
    rcases Nat.eq_or_lt_of_le ordered with rfl | apart
    · exact begun
    · obtain ⟨inside, rfl⟩ := List.getElem?_eq_some_iff.mp found
      have early := Nat.lt_trans apart inside
      have lines := List.pairwise_iff_getElem.mp increasing earlier later early inside apart
      exact begins_build_iff.mpr ⟨_, List.getElem?_eq_getElem early,
        Nat.le_trans (Nat.le_of_lt lines) before⟩
  have behind {position : Nat} {heading : Heading}
      (late : begins (build entries) line position = false)
      (found : (entries.map Prod.fst)[position]? = some heading) : line < heading.line := by
    refine Nat.not_le.mp fun begun => ?_
    rw [begins_build_iff.mpr ⟨heading, found, begun⟩] at late
    cases late
  rcases sectionAt?_latest leading with ⟨position, found, begun, latest⟩ | ⟨none, late⟩
  · rw [found]
    obtain ⟨heading, present, before⟩ := begins_build_iff.mp begun
    exact .inside position heading present before fun later other after located =>
      behind (latest later after) located
  · rw [none]
    refine .front fun heading member => ?_
    obtain ⟨position, found⟩ := List.mem_iff_getElem?.mp member
    exact behind (late position) found

/-- Every section is recorded with the ids of the headings whose sections hold it. -/
theorem map_active_build (entries : List (Heading × Option String)) :
    (build entries).map (·.active) =
      (List.range entries.length).map (idsWithin (build entries) entries) := by
  refine List.ext_getElem? fun position => ?_
  rw [List.getElem?_map, List.getElem?_map]
  rcases Nat.lt_or_ge position entries.length with inside | outside
  · have recorded := active_buildFrom .nil inside
    rw [List.getElem?_range inside]
    exact recorded
  · rw [List.getElem?_eq_none (by rw [length_build, List.length_map]; exact outside),
      List.getElem?_eq_none (by rw [List.length_range]; exact outside)]
    rfl

/-- A line stands under the headings that are recorded for its section. -/
theorem activeAt_build :
    (build entries).activeAt line =
      (((build entries).sectionAt? line).map (idsWithin (build entries) entries)).getD [] := by
  unfold activeAt
  cases found : (build entries).sectionAt? line with
  | none => rfl
  | some position =>
    obtain ⟨heading, present, _⟩ := begins_build_iff.mp (begins_of_sectionAt? found)
    have inside : position < entries.length := by
      simpa using (List.getElem?_eq_some_iff.mp present).1
    have recorded := congrArg (·[position]?) (map_active_build entries)
    simp only [List.getElem?_map, List.getElem?_range inside, Option.map_some] at recorded
    rw [Option.bind_some, recorded, Option.map_some]

end

/-- The id of the rule that an assignment gives to the heading at the position. -/
def ruleIdAt? (rules : List HeadingRule) (slotOf : Nat → Option Nat) (position : Nat) :
    Option String :=
  (slotOf position).bind fun slot => rules[slot]?.map (·.id)

def assigned (rules : List HeadingRule) (slotOf : Nat → Option Nat) (headings : List Heading) :
    List (Heading × Option String) :=
  headings.zipIdx.map fun (heading, position) => (heading, ruleIdAt? rules slotOf position)

theorem map_fst_assigned {rules : List HeadingRule} {slotOf : Nat → Option Nat}
    {headings : List Heading} : (assigned rules slotOf headings).map Prod.fst = headings := by
  simp [assigned, Function.comp_def]

theorem idsWithin_assigned {scopes : Scopes} {rules : List HeadingRule}
    {slotOf : Nat → Option Nat} {headings : List Heading} {position : Nat} :
    idsWithin scopes (assigned rules slotOf headings) position =
      ((List.range headings.length).filter fun outer => scopes.contains outer position).filterMap
        (ruleIdAt? rules slotOf) := by
  have size : (assigned rules slotOf headings).length = headings.length := by simp [assigned]
  unfold idsWithin
  rw [size]
  refine List.filterMap_congr fun outer member => ?_
  have inside := List.mem_range.mp (List.mem_filter.mp member).1
  simp [assigned, List.getElem?_eq_getElem inside]

theorem scopes_check (path : String) (contract : Contract) (headings : List Heading) :
    (check path contract headings).scopes =
      build (assigned contract.headings (slotOf? (placements contract headings)) headings) :=
  rfl

/-- For any outline and any assignment of its headings to rules, a section reaches to its end, two
sections are nested or apart, and the ids recorded for a heading are those of the headings whose
sections hold it, the outermost first.  Where the outline is that of a text, a line stands in the
section of the last heading that is not behind it, with the ids that are recorded for this. -/
theorem sections_agree (rules : List HeadingRule) (slotOf : Nat → Option Nat)
    (headings : List Heading) :
    let scopes := build (assigned rules slotOf headings)
    let idsAt (position : Nat) : List String :=
      ((List.range headings.length).filter fun outer => scopes.contains outer position).filterMap
        (ruleIdAt? rules slotOf)
    (∀ outer inner, scopes.contains outer inner = true ↔
      outer ≤ inner ∧ inner < sectionEnd headings outer) ∧
    (∀ first second,
      (∀ position, scopes.contains second position = true →
        scopes.contains first position = true) ∨
      (∀ position, scopes.contains first position = true →
        scopes.contains second position = true) ∨
      ∀ position, ¬ (scopes.contains first position = true ∧
        scopes.contains second position = true)) ∧
    scopes.map (·.active) = (List.range headings.length).map idsAt ∧
    ∀ text, headings = scanHeadings text → ∀ line,
      StandsIn headings line (scopes.sectionAt? line) ∧
      scopes.activeAt line = ((scopes.sectionAt? line).map idsAt).getD [] := by
  intro scopes idsAt
  have recorded : idsWithin scopes (assigned rules slotOf headings) = idsAt :=
    funext fun _ => idsWithin_assigned
  refine ⟨?_, nested_or_apart scopes, ?_, ?_⟩
  · intro outer inner
    rw [contains_build_iff, map_fst_assigned]
  · rw [map_active_build, recorded, ← List.length_map (f := Prod.fst), map_fst_assigned]
  · rintro text rfl line
    have increasing : ((assigned rules slotOf (scanHeadings text)).map Prod.fst).Pairwise
        fun first second => first.line < second.line := by
      rw [map_fst_assigned]
      exact pairwise_scanHeadings text
    have stands := standsIn_sectionAt? increasing line
    rw [map_fst_assigned] at stands
    exact ⟨stands, by rw [activeAt_build, recorded]⟩

end DocContract.Outline
