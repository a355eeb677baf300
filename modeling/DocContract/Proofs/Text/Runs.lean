import Mathlib.Data.List.TakeWhile

namespace DocContract.Text

variable {test : Char → Bool} {run rest text : List Char} {found : List (List Char)}

theorem head?_dropWhile (test : Char → Bool) (text : List Char) :
    ∀ c ∈ (text.dropWhile test).head?, test c = false := by
  intro c first
  have stopped := List.head?_dropWhile_not test text
  rw [Option.mem_def.mp first] at stopped
  simpa using stopped

theorem exists_first_run (test : Char → Bool) (text : List Char) :
    ∃ run rest, text = run ++ rest ∧ (∀ c ∈ run, test c = true) ∧
      ∀ c ∈ rest.head?, test c = false :=
  ⟨text.takeWhile test, text.dropWhile test, List.takeWhile_append_dropWhile.symm,
    fun _ => List.mem_takeWhile_imp, head?_dropWhile test text⟩

theorem takeWhile_run_append (members : ∀ c ∈ run, test c = true)
    (ended : ∀ c ∈ rest.head?, test c = false) : (run ++ rest).takeWhile test = run := by
  rw [List.takeWhile_append_of_pos members]
  cases rest with
  | nil => exact List.append_nil run
  | cons c behind =>
    rw [List.takeWhile_cons_of_neg (by simp [ended c rfl]), List.append_nil]

theorem dropWhile_run_append (members : ∀ c ∈ run, test c = true)
    (ended : ∀ c ∈ rest.head?, test c = false) : (run ++ rest).dropWhile test = rest := by
  rw [List.dropWhile_append_of_pos members]
  cases rest with
  | nil => rfl
  | cons c behind => rw [List.dropWhile_cons_of_neg (by simp [ended c rfl])]

/-- These are the runs of the text from left to right.  None is empty, and neither in front of one
nor behind it stands a character that would lengthen it. -/
inductive HasRuns (test : Char → Bool) : List Char → List (List Char) → Prop where
  | nil : HasRuns test [] []
  | other {c : Char} {rest : List Char} {found : List (List Char)} (outside : test c = false)
      (behind : HasRuns test rest found) : HasRuns test (c :: rest) found
  | run {run rest : List Char} {found : List (List Char)} (nonempty : run ≠ [])
      (members : ∀ c ∈ run, test c = true) (ended : ∀ c ∈ rest.head?, test c = false)
      (behind : HasRuns test rest found) : HasRuns test (run ++ rest) (run :: found)

def runs (test : Char → Bool) (text : List Char) : List (List Char) :=
  match text with
  | [] => []
  | c :: rest =>
    if test c then (c :: rest.takeWhile test) :: runs test (rest.dropWhile test)
    else runs test rest
termination_by text.length
decreasing_by
  · exact Nat.lt_succ_of_le (List.dropWhile_sublist test).length_le
  · exact Nat.lt_succ_self _

theorem hasRuns_runs (test : Char → Bool) (text : List Char) :
    HasRuns test text (runs test text) := by
  induction text using runs.induct test with
  | case1 =>
    rw [runs]
    exact .nil
  | case2 c rest inside ih =>
    have members : ∀ d ∈ c :: rest.takeWhile test, test d = true :=
      List.forall_mem_cons.mpr ⟨inside, fun d => List.mem_takeWhile_imp⟩
    have whole := HasRuns.run (List.cons_ne_nil c _) members (head?_dropWhile test rest) ih
    rw [List.cons_append, List.takeWhile_append_dropWhile] at whole
    rwa [runs, if_pos inside]
  | case3 c rest outside ih =>
    rw [runs, if_neg outside]
    exact .other (Bool.eq_false_iff.mpr outside) ih

theorem runs_eq_iff : runs test text = found ↔ HasRuns test text found := by
  refine ⟨fun same => same ▸ hasRuns_runs test text, fun cut => ?_⟩
  induction cut with
  | nil => rw [runs]
  | other outside _ ih => rwa [runs, if_neg (by simp [outside])]
  | @run run rest found nonempty members ended _ ih =>
    obtain ⟨c, more, rfl⟩ := List.exists_cons_of_ne_nil nonempty
    obtain ⟨own, others⟩ := List.forall_mem_cons.mp members
    rw [List.cons_append, runs, if_pos own, takeWhile_run_append others ended,
      dropWhile_run_append others ended, ih]

theorem HasRuns.of_mem (cut : HasRuns test text found) (member : run ∈ found) :
    run ≠ [] ∧ ∀ c ∈ run, test c = true := by
  induction cut with
  | nil => cases member
  | other _ _ ih => exact ih member
  | run nonempty members _ _ ih =>
    rcases List.mem_cons.mp member with rfl | behind
    · exact ⟨nonempty, members⟩
    · exact ih behind

theorem HasRuns.eq_nil_iff (cut : HasRuns test text found) :
    found = [] ↔ ∀ c ∈ text, test c = false := by
  induction cut with
  | nil => simp
  | other outside _ ih => rw [ih, List.forall_mem_cons, and_iff_right outside]
  | @run run rest found nonempty members _ _ _ =>
    obtain ⟨c, more, rfl⟩ := List.exists_cons_of_ne_nil nonempty
    simp [members c List.mem_cons_self]

end DocContract.Text
