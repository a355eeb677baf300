import DocContract.Outline.Sequence
import DocContract.Proofs.Outline.Section

/-!
The runs of heading numbers as looking back finds them: a number is compared with that of the
nearest heading in front that is not deeper, if this has the same level.
-/

namespace DocContract.Outline

/-- The heading at `earlier` is the last one of the level in front of the position, and only deeper
headings stand in between. -/
structure LastBefore (headings : List Heading) (position : Nat) (level : UInt8) (earlier : Nat)
    (previous : Heading) : Prop where
  before : earlier < position
  found : headings[earlier]? = some previous
  same : previous.level = level
  deeper : ∀ other inner, earlier < other → other < position → headings[other]? = some inner →
    level < inner.level

/-- Both headings have a number with the components `leading` in front, and that of the second does
not count up by one from `last`.  Nothing can count up from the largest component. -/
structure BreaksOff (previous heading : Heading) (leading : List UInt32) (last : UInt32) :
    Prop where
  numbered : previous.numberParts = leading ++ [last]
  bounded : last.toNat + 1 < UInt32.size
  skipped : ∃ own, heading.numberParts = leading ++ [own] ∧ own.toNat ≠ last.toNat + 1

/-- The issue with the number of a heading that does not follow the number of the previous one. -/
def skippedNumberIssue (path : String) (previous heading : Heading) (leading : List UInt32)
    (last : UInt32) : Issue :=
  let expected := joinNumber (leading ++ [last + 1])
  .ofEntries .error .headingNumberSequence path (some heading.line)
    ("heading number " ++ heading.number ++ " should be " ++ expected ++ " (follows " ++
      previous.number ++ ")")
    [("expected", .string expected), ("found", .string heading.number),
      ("previous", .string previous.number), ("previous_line", .nat previous.line)]

def Heading.run? (heading : Heading) : Option Run :=
  heading.numberParts.getLast?.map fun last =>
    ⟨heading.level, heading.numberParts.dropLast, last, heading.line⟩

/-- The runs that go on behind the headings. -/
def runsBehind (before : List Heading) : List Run :=
  before.foldl runsAfter []

def gapAt? (headings : List Heading) (position : Nat) : Option Gap :=
  headings[position]?.bind (gap? (runsBehind (headings.take position)))

section

variable {headings : List Heading} {heading previous : Heading} {level : UInt8}
variable {runs : List Run} {run : Run} {position earlier : Nat} {gap : Gap} {last own : UInt32}

theorem lastBefore_succ_of_deeper (found : headings[position]? = some heading)
    (deeper : level < heading.level) :
    LastBefore headings (position + 1) level earlier previous ↔
      LastBefore headings position level earlier previous := by
  constructor
  · intro latest
    have distinct : earlier ≠ position := by
      rintro rfl
      obtain rfl := Option.some.inj (found.symm.trans latest.found)
      exact UInt8.ne_of_lt deeper latest.same.symm
    have bound := latest.before
    exact ⟨by omega, latest.found, latest.same, fun other inner after inside =>
      latest.deeper other inner after (Nat.lt_succ_of_lt inside)⟩
  · intro latest
    refine ⟨Nat.lt_succ_of_lt latest.before, latest.found, latest.same, ?_⟩
    intro other inner after inside present
    rcases Nat.lt_succ_iff_lt_or_eq.mp inside with former | rfl
    · exact latest.deeper other inner after former present
    · exact Option.some.inj (found.symm.trans present) ▸ deeper

theorem lastBefore_succ_of_not_deeper (found : headings[position]? = some heading)
    (shallow : ¬ level < heading.level) :
    LastBefore headings (position + 1) level earlier previous ↔
      earlier = position ∧ previous = heading ∧ heading.level = level := by
  constructor
  · intro latest
    rcases Nat.lt_succ_iff_lt_or_eq.mp latest.before with former | rfl
    · exact absurd (latest.deeper position heading former (Nat.lt_succ_self _) found) shallow
    · obtain rfl := Option.some.inj (found.symm.trans latest.found)
      exact ⟨rfl, rfl, latest.same⟩
  · rintro ⟨rfl, rfl, same⟩
    exact ⟨Nat.lt_succ_self _, found, same, fun other inner after inside => by omega⟩

theorem level_of_run? (begun : heading.run? = some run) : run.level = heading.level := by
  obtain ⟨_, _, rfl⟩ := Option.map_eq_some_iff.mp begun
  rfl

theorem runsAfter_eq :
    runsAfter runs heading =
      heading.run?.toList ++ runs.filter fun run => run.level < heading.level := by
  unfold runsAfter Heading.run?
  cases heading.numberParts.getLast? <;> rfl

/-- A heading ends the runs of its own level and of the deeper ones, and leaves the others. -/
theorem find?_runsAfter :
    ((runsAfter runs heading).find? fun run => run.level == level) =
      if level < heading.level then runs.find? fun run => run.level == level
      else if heading.level = level then heading.run? else none := by
  have others (distinct : heading.level ≠ level) :
      (heading.run?.toList.find? fun run => run.level == level) = none := by
    refine List.find?_eq_none.mpr fun run member => ?_
    rw [level_of_run? (Option.mem_toList.mp member)]
    simpa using distinct
  rw [runsAfter_eq, List.find?_append]
  by_cases deeper : level < heading.level
  · rw [if_pos deeper, others (UInt8.ne_of_lt deeper).symm, Option.none_or, List.find?_filter]
    congr 1
    funext run
    by_cases same : run.level = level
    · simp [same, deeper]
    · simp [same]
  · have ended : ((runs.filter fun run => run.level < heading.level).find? fun run =>
        run.level == level) = none := by
      refine List.find?_eq_none.mpr fun run kept same => deeper ?_
      rw [← beq_iff_eq.mp same]
      simpa using (List.mem_filter.mp kept).2
    rw [if_neg deeper, ended, Option.or_none]
    by_cases same : heading.level = level
    · rw [if_pos same]
      cases begun : heading.run? with
      | none => rfl
      | some run => simp [level_of_run? begun, same]
    · rw [if_neg same, others same]

/-- The run of a level is the one that the last heading of the level has begun, if no heading that
is not deeper has come since. -/
theorem find?_runsBehind (inside : position ≤ headings.length) :
    ((runsBehind (headings.take position)).find? fun run => run.level == level) = some run ↔
      ∃ earlier previous, LastBefore headings position level earlier previous ∧
        previous.run? = some run := by
  induction position with
  | zero =>
    constructor
    · intro found
      simp [runsBehind] at found
    · rintro ⟨earlier, previous, latest, _⟩
      exact absurd latest.before (Nat.not_lt_zero _)
  | succ position ih =>
    have found := List.getElem?_eq_getElem inside
    rw [List.take_succ_eq_append_getElem inside, runsBehind, List.foldl_append, List.foldl_cons,
      List.foldl_nil, find?_runsAfter]
    by_cases deeper : level < headings[position].level
    · simp only [if_pos deeper, lastBefore_succ_of_deeper found deeper]
      exact ih (Nat.le_of_succ_le inside)
    · simp only [if_neg deeper, lastBefore_succ_of_not_deeper found deeper]
      by_cases same : headings[position].level = level
      · rw [if_pos same]
        constructor
        · exact fun begun => ⟨position, _, ⟨rfl, rfl, same⟩, begun⟩
        · rintro ⟨_, _, ⟨rfl, rfl, _⟩, begun⟩
          exact begun
      · simp [same]

theorem gapsFrom_eq (before rest : List Heading) :
    gapsFrom (runsBehind before) rest =
      (List.range rest.length).filterMap fun offset =>
        gapAt? (before ++ rest) (before.length + offset) := by
  induction rest generalizing before with
  | nil => rfl
  | cons heading rest ih =>
    have own : gapAt? (before ++ heading :: rest) before.length =
        gap? (runsBehind before) heading := by
      simp [gapAt?]
    have behind : runsAfter (runsBehind before) heading = runsBehind (before ++ [heading]) := by
      simp [runsBehind]
    have shifted : (fun offset => gapAt? (before ++ [heading] ++ rest)
          ((before ++ [heading]).length + offset)) =
        (fun offset => gapAt? (before ++ heading :: rest) (before.length + offset)) ∘ Nat.succ := by
      funext offset
      simp only [Function.comp_apply, List.append_assoc, List.singleton_append, List.length_append,
        List.length_singleton, Nat.succ_eq_add_one]
      congr 1
      omega
    rw [gapsFrom, behind, ih, List.length_cons, List.range_succ_eq_map, List.filterMap_cons,
      Nat.add_zero, own, List.filterMap_map, shifted]
    cases gap? (runsBehind before) heading <;> rfl

/-- The gaps are those at the positions of the headings, in their order. -/
theorem gaps_eq : gaps headings = (List.range headings.length).filterMap (gapAt? headings) := by
  have started := gapsFrom_eq [] headings
  simp only [List.nil_append, List.length_nil, Nat.zero_add] at started
  exact started

theorem isBrokenBy_iff :
    run.isBrokenBy own = true ↔
      run.last.toNat + 1 < UInt32.size ∧ own.toNat ≠ run.last.toNat + 1 := by
  unfold Run.isBrokenBy Run.successor?
  by_cases bounded : run.last.toNat + 1 < UInt32.size
  · have next : (run.last + 1).toNat = run.last.toNat + 1 := by
      rw [UInt32.toNat_add]
      exact Nat.mod_eq_of_lt bounded
    rw [if_pos bounded, and_iff_right bounded, ← next, Option.any_some, bne_iff_ne, ne_eq, ne_eq,
      UInt32.toNat_inj, eq_comm]
  · rw [if_neg bounded]
    simp only [Option.any_none, Bool.false_eq_true, false_iff]
    exact fun broken => bounded broken.1

theorem run?_eq_some_iff :
    heading.run? = some run ↔
      heading.numberParts = run.leading ++ [run.last] ∧ run.level = heading.level ∧
        run.line = heading.line := by
  unfold Heading.run?
  constructor
  · intro begun
    obtain ⟨last, final, rfl⟩ := Option.map_eq_some_iff.mp begun
    obtain ⟨leading, parts⟩ := List.getLast?_eq_some_iff.mp final
    simp [parts]
  · rintro ⟨parts, level, line⟩
    simp [parts, ← level, ← line]

/-- There is a gap in front of a heading exactly where its number breaks off from that of the last
heading of its level. -/
theorem gapAt?_eq_some_iff :
    gapAt? headings position = some gap ↔
      ∃ heading earlier previous leading last, headings[position]? = some heading ∧
        LastBefore headings position heading.level earlier previous ∧
        BreaksOff previous heading leading last ∧
        gap = ⟨heading, heading.level, leading, last, previous.line⟩ := by
  constructor
  · intro found
    obtain ⟨heading, present, broken⟩ := Option.bind_eq_some_iff.mp found
    obtain ⟨own, final, broken⟩ := Option.bind_eq_some_iff.mp broken
    obtain ⟨run, kept, rfl⟩ := Option.map_eq_some_iff.mp broken
    obtain ⟨held, same⟩ := Option.filter_eq_some_iff.mp kept
    have inside := Nat.le_of_lt (List.getElem?_eq_some_iff.mp present).1
    obtain ⟨earlier, previous, latest, begun⟩ := (find?_runsBehind inside).mp held
    obtain ⟨numbered, level, line⟩ := run?_eq_some_iff.mp begun
    obtain ⟨leading, breaks⟩ := Bool.and_eq_true_iff.mp same
    obtain ⟨bounded, skips⟩ := isBrokenBy_iff.mp breaks
    obtain ⟨front, parts⟩ := List.getLast?_eq_some_iff.mp final
    refine ⟨heading, earlier, previous, run.leading, run.last, present, latest,
      ⟨numbered, bounded, own, ?_, skips⟩, ?_⟩
    · rw [beq_iff_eq.mp leading, parts, List.dropLast_concat]
    · rw [← line, ← latest.same, ← level]
  · rintro ⟨heading, earlier, previous, leading, last, present, latest,
      ⟨numbered, bounded, own, renumbered, skips⟩, rfl⟩
    have inside := Nat.le_of_lt (List.getElem?_eq_some_iff.mp present).1
    have begun : previous.run? = some ⟨heading.level, leading, last, previous.line⟩ :=
      run?_eq_some_iff.mpr ⟨numbered, latest.same.symm, rfl⟩
    have held := (find?_runsBehind inside).mpr ⟨earlier, previous, latest, begun⟩
    have breaks : Run.isBrokenBy ⟨heading.level, leading, last, previous.line⟩ own = true :=
      isBrokenBy_iff.mpr ⟨bounded, skips⟩
    simp [gapAt?, present, gap?, renumbered, held, breaks]

theorem toIssue_eq {path : String} {leading : List UInt32}
    (breaks : BreaksOff previous heading leading last) :
    Gap.toIssue path ⟨heading, level, leading, last, previous.line⟩ =
      skippedNumberIssue path previous heading leading last := by
  have number : previous.number = joinNumber (leading ++ [last]) := by
    rw [Heading.number, breaks.numbered]
  rw [skippedNumberIssue, number]
  rfl

end

/-- The issues with heading numbers stand in the order of the headings, at most one for each: those
whose number breaks off from that of the last heading of their level, if only deeper headings stand
between the two. -/
theorem sequenceIssues_report_breaks (path : String) (headings : List Heading) :
    ∃ reported : List (Nat × Issue),
      sequenceIssues path headings = reported.map Prod.snd ∧
      (reported.map Prod.fst).Pairwise (· < ·) ∧
      ∀ position issue, (position, issue) ∈ reported ↔
        ∃ heading earlier previous leading last, headings[position]? = some heading ∧
          LastBefore headings position heading.level earlier previous ∧
          BreaksOff previous heading leading last ∧
          issue = skippedNumberIssue path previous heading leading last := by
  obtain ⟨reported, made, ordered, member⟩ :=
    exists_placed (fun position => (gapAt? headings position).map (Gap.toIssue path))
      headings.length
  refine ⟨reported, ?_, ordered, fun position issue => (member position issue).trans ?_⟩
  · rw [← made, sequenceIssues, gaps_eq, List.map_filterMap]
  · constructor
    · rintro ⟨_, caused⟩
      obtain ⟨gap, found, rfl⟩ := Option.map_eq_some_iff.mp caused
      obtain ⟨heading, earlier, previous, leading, last, present, latest, breaks, rfl⟩ :=
        gapAt?_eq_some_iff.mp found
      exact ⟨heading, earlier, previous, leading, last, present, latest, breaks,
        toIssue_eq breaks⟩
    · rintro ⟨heading, earlier, previous, leading, last, present, latest, breaks, rfl⟩
      have found := gapAt?_eq_some_iff.mpr
        ⟨heading, earlier, previous, leading, last, present, latest, breaks, rfl⟩
      refine ⟨(List.getElem?_eq_some_iff.mp present).1, ?_⟩
      rw [found, Option.map_some, toIssue_eq breaks]

end DocContract.Outline
