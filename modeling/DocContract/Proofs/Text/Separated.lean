import DocContract.Proofs.Text.Runs
import DocContract.Proofs.Text.Split
import DocContract.Text.Separated

namespace DocContract.Text

variable {isMember : Char → Bool} {separator c : Char} {part rest chars after : List Char}
variable {parts others : List (List Char)}

theorem mem_joinWith (member : c ∈ joinWith separator parts) :
    c = separator ∨ ∃ part ∈ parts, c ∈ part := by
  induction parts with
  | nil => cases member
  | cons part rest ih =>
    cases rest with
    | nil => exact .inr ⟨part, List.mem_cons_self, member⟩
    | cons next rest =>
      rw [joinWith_cons (List.cons_ne_nil next rest), List.mem_append, List.mem_cons] at member
      rcases member with own | same | behind
      · exact .inr ⟨part, List.mem_cons_self, own⟩
      · exact .inl same
      · rcases ih behind with same | ⟨other, later, inside⟩
        · exact .inl same
        · exact .inr ⟨other, List.mem_cons_of_mem part later, inside⟩

/-- Runs of members with foreign separators between them are the runs of the whole. -/
theorem hasRuns_joinWith (runs : ∀ part ∈ parts, part ≠ [] ∧ ∀ c ∈ part, isMember c = true)
    (foreign : isMember separator = false) :
    HasRuns isMember (joinWith separator parts) parts := by
  induction parts with
  | nil => exact .nil
  | cons part more ih =>
    obtain ⟨⟨nonempty, members⟩, others⟩ := List.forall_mem_cons.mp runs
    cases more with
    | nil => simpa [joinWith] using HasRuns.run nonempty members (by simp) .nil
    | cons next more =>
      rw [joinWith_cons (List.cons_ne_nil next more)]
      exact .run nonempty members (by simpa using foreign) (.other foreign (ih others))

theorem separated?_eq_none (other : ∀ c ∈ chars.head?, isMember c = false) :
    separated? isMember separator chars = none := by
  have none : ([] ++ chars).takeWhile isMember = [] :=
    takeWhile_run_append (List.forall_mem_nil _) other
  rw [List.nil_append] at none
  rw [separated?, none]
  rfl

/-- A run of members is read up to the first other character. -/
theorem separated?_run (nonempty : part ≠ []) (members : ∀ c ∈ part, isMember c = true)
    (ended : ∀ c ∈ rest.head?, isMember c = false) :
    separated? isMember separator (part ++ rest) =
      match rest with
      | [] => some ([part], [])
      | c :: behind =>
        if c = separator then
          match separated? isMember separator behind with
          | some (runs, after) => some (part :: runs, after)
          | none => some ([part], c :: behind)
        else some ([part], c :: behind) := by
  have taken := takeWhile_run_append members ended
  have left := dropWhile_run_append members ended
  rw [separated?, taken, if_neg (by simpa using nonempty)]
  split
  · next c behind found =>
    rw [left] at found
    subst found
    rfl
  · next found =>
    rw [left] at found
    subst found
    rfl

/-- Runs of members with separators between them are read up to where they do not go on. -/
theorem separated?_joinWith (nonempty : parts ≠ [])
    (runs : ∀ part ∈ parts, part ≠ [] ∧ ∀ c ∈ part, isMember c = true)
    (foreign : isMember separator = false) (ended : ∀ c ∈ rest.head?, isMember c = false)
    (final : ∀ behind, rest = separator :: behind → separated? isMember separator behind = none) :
    separated? isMember separator (joinWith separator parts ++ rest) = some (parts, rest) := by
  induction parts with
  | nil => exact absurd rfl nonempty
  | cons part more ih =>
    obtain ⟨⟨some, members⟩, others⟩ := List.forall_mem_cons.mp runs
    cases more with
    | nil =>
      rw [joinWith, separated?_run some members ended]
      cases rest with
      | nil => rfl
      | cons c behind =>
        by_cases same : c = separator
        · simp [same, final behind (by rw [same])]
        · simp [same]
    | cons next more =>
      have behind := ih (List.cons_ne_nil next more) others
      rw [joinWith_cons (List.cons_ne_nil next more), List.append_assoc, List.cons_append,
        separated?_run some members (by simpa using foreign)]
      simp [behind]

/-- The text is runs of members with separators between them, and a rest without a member in
front. -/
structure Separates (isMember : Char → Bool) (separator : Char) (chars : List Char)
    (parts : List (List Char)) (rest : List Char) : Prop where
  whole : chars = joinWith separator parts ++ rest
  nonempty : parts ≠ []
  runs : ∀ part ∈ parts, part ≠ [] ∧ ∀ c ∈ part, isMember c = true
  ended : ∀ c ∈ rest.head?, isMember c = false

theorem Separates.single (nonempty : part ≠ []) (members : ∀ c ∈ part, isMember c = true)
    (ended : ∀ c ∈ rest.head?, isMember c = false) :
    Separates isMember separator (part ++ rest) [part] rest where
  whole := rfl
  nonempty := List.cons_ne_nil _ _
  runs := List.forall_mem_singleton.mpr ⟨nonempty, members⟩
  ended := ended

theorem Separates.cons (nonempty : part ≠ []) (members : ∀ c ∈ part, isMember c = true)
    (behind : Separates isMember separator chars parts rest) :
    Separates isMember separator (part ++ separator :: chars) (part :: parts) rest where
  whole := by
    rw [behind.whole, joinWith_cons behind.nonempty, List.append_assoc, List.cons_append]
  nonempty := List.cons_ne_nil _ _
  runs := List.forall_mem_cons.mpr ⟨⟨nonempty, members⟩, behind.runs⟩
  ended := behind.ended

/-- Nothing but runs of members is read, and the last one is read whole. -/
theorem separates_of_separated?
    (found : separated? isMember separator chars = some (parts, rest)) :
    Separates isMember separator chars parts rest := by
  induction size : chars.length using Nat.strongRecOn generalizing chars parts rest with
  | ind length ih =>
    obtain ⟨run, others, rfl, members, ended⟩ := exists_first_run isMember chars
    by_cases empty : run = []
    · rw [empty, List.nil_append, separated?_eq_none ended] at found
      cases found
    have last : some ([run], others) = some (parts, rest) →
        Separates isMember separator (run ++ others) parts rest := by
      rintro ⟨⟩
      exact .single empty members ended
    rw [separated?_run empty members ended] at found
    cases others with
    | nil => exact last found
    | cons c behind =>
      by_cases same : c = separator
      · subst same
        cases later : separated? isMember c behind with
        | none => exact last (by simpa [later] using found)
        | some read =>
          obtain ⟨runs, after⟩ := read
          simp only [↓reduceIte, later, Option.some.injEq, Prod.mk.injEq] at found
          obtain ⟨rfl, rfl⟩ := found
          have less : behind.length < length := by
            rw [← size, List.length_append, List.length_cons]
            omega
          exact .cons empty members (ih _ less later rfl)
      · exact last (by simpa [same] using found)

theorem exists_separated?_run (nonempty : part ≠ []) (members : ∀ c ∈ part, isMember c = true)
    (ended : ∀ c ∈ rest.head?, isMember c = false) :
    ∃ others after,
      separated? isMember separator (part ++ rest) = some (part :: others, after) := by
  rw [separated?_run nonempty members ended]
  cases rest with
  | nil => exact ⟨[], [], rfl⟩
  | cons c behind =>
    by_cases same : c = separator
    · cases later : separated? isMember separator behind with
      | none => exact ⟨[], c :: behind, by simp [same, later]⟩
      | some read => exact ⟨read.1, read.2, by simp [same, later]⟩
    · exact ⟨[], c :: behind, by simp [same]⟩

theorem length_le_joinWith (part : List Char) (others : List (List Char)) :
    part.length ≤ (joinWith separator (part :: others)).length := by
  cases others with
  | nil => exact Nat.le_refl _
  | cons next more =>
    rw [joinWith_cons (List.cons_ne_nil next more), List.length_append]
    omega

/-- At least as much is read as any runs of members that the text starts with. -/
theorem exists_separated? (nonempty : parts ≠ [])
    (runs : ∀ part ∈ parts, part ≠ [] ∧ ∀ c ∈ part, isMember c = true)
    (foreign : isMember separator = false) (rest : List Char) :
    ∃ read after,
      separated? isMember separator (joinWith separator parts ++ rest) = some (read, after) ∧
        parts.length ≤ read.length ∧
        (joinWith separator parts).length ≤ (joinWith separator read).length := by
  induction parts with
  | nil => exact absurd rfl nonempty
  | cons part more ih =>
    obtain ⟨⟨visible, members⟩, behind⟩ := List.forall_mem_cons.mp runs
    cases more with
    | nil =>
      -- The rest may lengthen the last run.
      obtain ⟨run, others, rfl, inside, ended⟩ := exists_first_run isMember rest
      have longer : ∀ c ∈ part ++ run, isMember c = true :=
        List.forall_mem_append.mpr ⟨members, inside⟩
      have nonempty : part ++ run ≠ [] := List.append_ne_nil_of_left_ne_nil visible run
      obtain ⟨read, after, found⟩ : ∃ read after,
          separated? isMember separator (part ++ run ++ others) =
            some ((part ++ run) :: read, after) :=
        exists_separated?_run nonempty longer ended
      refine ⟨_, after, by rwa [List.append_assoc] at found, by simp, ?_⟩
      refine Nat.le_trans ?_ (length_le_joinWith (part ++ run) read)
      rw [joinWith, List.length_append]
      omega
    | cons next more =>
      obtain ⟨read, after, found, count, size⟩ := ih (List.cons_ne_nil next more) behind
      have filled : read ≠ [] := by
        rintro rfl
        cases count
      refine ⟨part :: read, after, ?_, Nat.succ_le_succ count, ?_⟩
      · rw [joinWith_cons (List.cons_ne_nil next more), List.append_assoc, List.cons_append,
          separated?_run visible members (by simpa using foreign)]
        simp [found]
      · rw [joinWith_cons (List.cons_ne_nil next more), joinWith_cons filled, List.length_append,
          List.length_append, List.length_cons, List.length_cons]
        omega

end DocContract.Text
