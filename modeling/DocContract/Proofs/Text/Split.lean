import DocContract.Text.Line

namespace DocContract.Text

variable {separator : Char} {chars part : List Char} {parts others : List (List Char)}

theorem splitAt_ne_nil : splitAt separator chars ≠ [] := by
  cases chars with
  | nil => simp [splitAt]
  | cons c rest =>
    rw [splitAt]
    split
    · simp
    · split <;> simp

theorem splitAt_append (before after : List Char) :
    splitAt separator (before ++ separator :: after) =
      splitAt separator before ++ splitAt separator after := by
  induction before with
  | nil => simp [splitAt]
  | cons c rest ih =>
    rw [List.cons_append, splitAt, splitAt, ih]
    by_cases same : c = separator
    · simp [same]
    · cases cut : splitAt separator rest with
      | nil => exact absurd cut splitAt_ne_nil
      | cons first more => simp [same]

theorem splitAt_of_not_mem (whole : separator ∉ part) : splitAt separator part = [part] := by
  induction part with
  | nil => rfl
  | cons c rest ih =>
    rw [List.mem_cons, not_or] at whole
    obtain ⟨different, remaining⟩ := whole
    rw [splitAt, if_neg (Ne.symm different), ih remaining]

theorem notMem_of_mem_splitAt (member : part ∈ splitAt separator chars) : separator ∉ part := by
  induction chars generalizing part with
  | nil =>
    obtain rfl := List.mem_singleton.mp member
    exact List.not_mem_nil
  | cons c rest ih =>
    rw [splitAt] at member
    split at member
    · rcases List.mem_cons.mp member with rfl | later
      · exact List.not_mem_nil
      · exact ih later
    · next different =>
      cases cut : splitAt separator rest with
      | nil => exact absurd cut splitAt_ne_nil
      | cons first more =>
        rw [cut] at member ih
        rcases List.mem_cons.mp member with rfl | later
        · rw [List.mem_cons, not_or]
          exact ⟨Ne.symm different, ih List.mem_cons_self⟩
        · exact ih (List.mem_cons_of_mem _ later)

theorem joinWith_cons (nonempty : parts ≠ []) :
    joinWith separator (part :: parts) = part ++ separator :: joinWith separator parts := by
  cases parts with
  | nil => exact absurd rfl nonempty
  | cons next more => rfl

theorem joinWith_cons_eq_flatMap :
    joinWith separator (part :: parts) = part ++ parts.flatMap (separator :: ·) := by
  induction parts generalizing part with
  | nil => simp [joinWith]
  | cons next more ih => rw [joinWith, ih, List.flatMap_cons, List.cons_append]

theorem joinWith_eq_nil_iff (nonempty : ∀ part ∈ parts, part ≠ []) :
    joinWith separator parts = [] ↔ parts = [] := by
  cases parts with
  | nil => simp [joinWith]
  | cons part more =>
    rw [joinWith_cons_eq_flatMap]
    simp [nonempty part List.mem_cons_self]

theorem joinWith_append (nonempty : parts ≠ []) (more : others ≠ []) :
    joinWith separator (parts ++ others) =
      joinWith separator parts ++ separator :: joinWith separator others := by
  induction parts with
  | nil => exact absurd rfl nonempty
  | cons part rest ih =>
    cases rest with
    | nil => exact joinWith_cons more
    | cons next remaining =>
      rw [List.cons_append, joinWith_cons (by simp), ih (by simp),
        joinWith_cons (List.cons_ne_nil next remaining), List.append_assoc, List.cons_append]

/-- Parts without separators are what is found again. -/
theorem splitAt_joinWith (nonempty : parts ≠ []) (whole : ∀ part ∈ parts, separator ∉ part) :
    splitAt separator (joinWith separator parts) = parts := by
  induction parts with
  | nil => exact absurd rfl nonempty
  | cons part rest ih =>
    have first := splitAt_of_not_mem (whole part List.mem_cons_self)
    cases rest with
    | nil => exact first
    | cons next more =>
      have remaining := ih (by simp) fun other member => whole other (List.mem_cons_of_mem _ member)
      rw [joinWith_cons (by simp), splitAt_append, first, remaining]
      rfl

theorem joinWith_splitAt : joinWith separator (splitAt separator chars) = chars := by
  induction chars with
  | nil => rfl
  | cons c rest ih =>
    rw [splitAt]
    split
    · next same => rw [joinWith_cons splitAt_ne_nil, ih, same, List.nil_append]
    · cases cut : splitAt separator rest with
      | nil => exact absurd cut splitAt_ne_nil
      | cons first more =>
        rw [cut] at ih
        cases more with
        | nil => exact congrArg (c :: ·) ih
        | cons next others =>
          rw [joinWith_cons (by simp)] at ih
          rw [joinWith_cons (by simp), List.cons_append, ih]

theorem afterOpening?_eq_some_iff {opening rest : List Char} :
    afterOpening? opening chars = some rest ↔ chars = opening ++ rest := by
  induction opening generalizing chars with
  | nil => simp [afterOpening?]
  | cons c more ih =>
    cases chars with
    | nil => simp [afterOpening?]
    | cons d following =>
      rw [afterOpening?]
      by_cases same : c = d
      · simp [same, ih]
      · simp [same, Ne.symm same]

end DocContract.Text
