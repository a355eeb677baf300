import DocContract.Text.Blank
import Mathlib.Data.List.DropRight

namespace DocContract.Text

theorem dropWhile_dropEndWhile (test : α → Bool) (items : List α) :
    (dropEndWhile test (items.dropWhile test)).dropWhile test =
      dropEndWhile test (items.dropWhile test) := by
  have start : dropEndWhile test (items.dropWhile test) <+: items.dropWhile test :=
    List.rdropWhile_prefix test (items.dropWhile test)
  cases kept : dropEndWhile test (items.dropWhile test) with
  | nil => rfl
  | cons first rest =>
    obtain ⟨dropped, whole⟩ := start
    have stays := List.head?_dropWhile_not test items
    rw [← whole, kept] at stays
    exact List.dropWhile_cons_of_neg (by simpa using stays)

theorem trimChars_trimChars (chars : List Char) :
    trimChars (trimChars chars) = trimChars chars := by
  rw [trimChars, trimChars, dropWhile_dropEndWhile]
  exact List.rdropWhile_idempotent isBlank (chars.dropWhile isBlank)

theorem trimChars_sublist (chars : List Char) : (trimChars chars).Sublist chars :=
  (List.rdropWhile_prefix isBlank _).sublist.trans (List.dropWhile_sublist isBlank)

theorem trimChars_eq_nil_iff (chars : List Char) :
    trimChars chars = [] ↔ ∀ c ∈ chars, isBlank c = true := by
  have ends : trimChars chars = [] ↔ ∀ c ∈ chars.dropWhile isBlank, isBlank c = true :=
    List.rdropWhile_eq_nil_iff
  rw [ends, ← List.dropWhile_eq_nil_iff (p := isBlank) (l := chars)]
  constructor
  · intro blank
    cases kept : chars.dropWhile isBlank with
    | nil => rfl
    | cons first rest =>
      have visible := List.head?_dropWhile_not isBlank chars
      rw [kept] at visible blank
      exact absurd (blank first List.mem_cons_self) (by simpa using visible)
  · intro none
    rw [none]
    exact nofun

/-- A text that trimming leaves as it is has no blanks at either end. -/
theorem trimChars_eq_self_iff (chars : List Char) :
    trimChars chars = chars ↔
      chars.dropWhile isBlank = chars ∧ dropEndWhile isBlank chars = chars := by
  constructor
  · intro trimmed
    have kept : dropEndWhile isBlank (chars.dropWhile isBlank) <+: chars.dropWhile isBlank :=
      List.rdropWhile_prefix isBlank (chars.dropWhile isBlank)
    have size : chars.length ≤ (chars.dropWhile isBlank).length := by
      have least := kept.length_le
      rwa [← trimChars, trimmed] at least
    have front : chars.dropWhile isBlank = chars :=
      (List.dropWhile_suffix isBlank).eq_of_length_le size
    refine ⟨front, ?_⟩
    rwa [trimChars, front] at trimmed
  · rintro ⟨front, back⟩
    rw [trimChars, front, back]

/-- Dropping from the end stops in the second list if this has something to keep. -/
theorem dropEndWhile_append (test : α → Bool) (front back : List α) :
    dropEndWhile test (front ++ back) =
      if back.all test then dropEndWhile test front else front ++ dropEndWhile test back := by
  have kept : (back.reverse.dropWhile test).isEmpty = back.all test := by
    rw [Bool.eq_iff_iff, List.isEmpty_iff, List.dropWhile_eq_nil_iff, List.all_eq_true]
    simp
  rw [dropEndWhile, List.reverse_append, List.dropWhile_append, kept]
  split
  · rfl
  · rw [List.reverse_append, List.reverse_reverse]
    rfl

theorem trim_trim (text : String) : trim (trim text) = trim text := by
  simp [trim, trimChars_trimChars]

end DocContract.Text
