import DocContract.Outline.Heading
import DocContract.Proofs.Text.Lines

namespace DocContract.Text

variable {mark : Char} {count : Nat} {chars rest : List Char}

theorem takeWhile_run (next : rest.head? ≠ some mark) :
    (List.replicate count mark ++ rest).takeWhile (· == mark) = List.replicate count mark := by
  have none : rest.takeWhile (· == mark) = [] := by
    cases rest with
    | nil => rfl
    | cons c behind => exact List.takeWhile_cons_of_neg (by simpa using next)
  rw [List.takeWhile_append_of_pos (by simp +contextual [List.mem_replicate]), none,
    List.append_nil]

theorem dropWhile_run (next : rest.head? ≠ some mark) :
    (List.replicate count mark ++ rest).dropWhile (· == mark) = rest := by
  rw [List.dropWhile_append_of_pos (by simp +contextual [List.mem_replicate])]
  cases rest with
  | nil => rfl
  | cons c behind => exact List.dropWhile_cons_of_neg (by simpa using next)

theorem exists_run (mark : Char) (chars : List Char) :
    ∃ count rest, chars = List.replicate count mark ++ rest ∧ rest.head? ≠ some mark := by
  induction chars with
  | nil => exact ⟨0, [], rfl, nofun⟩
  | cons c behind ih =>
    by_cases same : c = mark
    · obtain ⟨count, rest, whole, next⟩ := ih
      exact ⟨count + 1, rest, by rw [whole, same]; rfl, next⟩
    · exact ⟨0, c :: behind, rfl, by simpa using same⟩

end DocContract.Text

namespace DocContract.Outline

open DocContract.Text

variable {line text front back extra title : List Char} {level number : Nat}
variable {headings more : List Heading}

/-- A fence is a run of three or more backticks or tildes behind at most three spaces. -/
theorem fenceLine?_eq_some_iff {fence : FenceLine} :
    fenceLine? line = some fence ↔ ∃ indent,
      line = List.replicate indent ' ' ++ (List.replicate fence.width fence.mark ++ fence.info) ∧
        indent ≤ 3 ∧ (fence.mark = '`' ∨ fence.mark = '~') ∧ 3 ≤ fence.width ∧
        fence.info.head? ≠ some fence.mark := by
  constructor
  · intro found
    obtain ⟨indent, marks, rfl, noSpace⟩ := exists_run ' ' line
    rw [fenceLine?, dropWhile_run noSpace, takeWhile_run noSpace] at found
    cases marks with
    | nil => cases found
    | cons mark rest =>
      obtain ⟨width, info, whole, next⟩ := exists_run mark (mark :: rest)
      simp only [whole, takeWhile_run next, dropWhile_run next, List.length_replicate] at found
      split at found
      · next inside =>
        obtain rfl := Option.some.inj found
        exact ⟨indent, by rw [whole], inside.1, inside.2.1, inside.2.2, next⟩
      · cases found
  · obtain ⟨mark, width, info⟩ := fence
    rintro ⟨indent, rfl, near, kind, wide, next⟩
    simp only at near kind wide next ⊢
    obtain ⟨size, rfl⟩ : ∃ size, width = size + 1 := ⟨width - 1, by omega⟩
    have noSpace : (List.replicate (size + 1) mark ++ info).head? ≠ some ' ' := by
      rw [List.replicate_succ, List.cons_append, List.head?_cons]
      rcases kind with rfl | rfl <;> decide
    have run : mark :: (List.replicate size mark ++ info) =
        List.replicate (size + 1) mark ++ info := rfl
    rw [fenceLine?, dropWhile_run noSpace, takeWhile_run noSpace]
    rw [List.replicate_succ, List.cons_append]
    simp only [run, takeWhile_run next, dropWhile_run next, List.length_replicate]
    exact if_pos ⟨near, kind, wide⟩

/-- A heading is a run of one to six `#` behind at most three spaces, with a space or a tab and the
title behind. -/
theorem headingLine?_eq_some_iff :
    headingLine? line = some (level, title) ↔ ∃ indent c rest,
      line = List.replicate indent ' ' ++ (List.replicate level '#' ++ c :: rest) ∧
        indent ≤ 3 ∧ 1 ≤ level ∧ level ≤ 6 ∧ isSpaceOrTab c = true ∧
        title = trimChars (dropClosing (rest.dropWhile isSpaceOrTab)) := by
  constructor
  · intro found
    obtain ⟨indent, marks, rfl, noSpace⟩ := exists_run ' ' line
    obtain ⟨count, behind, rfl, next⟩ := exists_run '#' marks
    rw [headingLine?, dropWhile_run noSpace, takeWhile_run noSpace] at found
    simp only [takeWhile_run next, dropWhile_run next, List.length_replicate] at found
    cases behind with
    | nil => cases found
    | cons c rest =>
      simp only at found
      split at found
      · next inside =>
        obtain ⟨rfl, rfl⟩ := Prod.mk.inj (Option.some.inj found)
        exact ⟨indent, c, rest, rfl, inside.1, inside.2.1, inside.2.2.1, inside.2.2.2, rfl⟩
      · cases found
  · rintro ⟨indent, c, rest, rfl, near, least, most, blank, rfl⟩
    obtain ⟨size, rfl⟩ : ∃ size, level = size + 1 := ⟨level - 1, by omega⟩
    have noSpace : (List.replicate (size + 1) '#' ++ c :: rest).head? ≠ some ' ' := by
      rw [List.replicate_succ, List.cons_append, List.head?_cons]
      decide
    have next : (c :: rest).head? ≠ some '#' := by
      rw [List.head?_cons]
      intro same
      obtain rfl := Option.some.inj same
      cases blank
    rw [headingLine?, dropWhile_run noSpace, takeWhile_run noSpace]
    simp only [takeWhile_run next, dropWhile_run next, List.length_replicate]
    exact if_pos ⟨near, least, most, blank⟩

/-- The line neither opens a fence nor is a heading. -/
def Ordinary (line : List Char) : Prop :=
  fenceAfter none line = none ∧ heading? 0 line = none

instance (line : List Char) : Decidable (Ordinary line) :=
  inferInstanceAs (Decidable (_ ∧ _))

theorem fenceAfter_none_eq_none_iff :
    fenceAfter none line = none ↔ ∀ fence, fenceLine? line = some fence → fence.opens = false := by
  unfold fenceAfter
  cases fenceLine? line <;> simp

theorem heading?_eq_none_iff :
    heading? number line = none ↔ ∀ level title, headingLine? line = some (level, title) →
      title = [] := by
  rw [heading?]
  cases headingLine? line with
  | none => simp
  | some found =>
    obtain ⟨level, title⟩ := found
    simp

/-- Another character than a space, a `#` or the mark of a fence makes a line ordinary if only
spaces stand in front of it. -/
theorem ordinary_of_mark {c : Char} {rest : List Char} (count : Nat) (space : c ≠ ' ')
    (hash : c ≠ '#') (backtick : c ≠ '`') (tilde : c ≠ '~') :
    Ordinary (List.replicate count ' ' ++ c :: rest) := by
  have next : (c :: rest).head? ≠ some ' ' := by simpa using space
  have unfenced : fenceLine? (List.replicate count ' ' ++ c :: rest) = none := by
    simp [fenceLine?, dropWhile_run next, backtick, tilde]
  have plain : headingLine? (List.replicate count ' ' ++ c :: rest) = none := by
    simp [headingLine?, dropWhile_run next, hash]
  exact ⟨by simp [fenceAfter, unfenced], by simp [heading?, plain]⟩

theorem fenceAfter_hash {rest : List Char} : fenceAfter none ('#' :: rest) = none := by
  simp [fenceAfter, fenceLine?]

theorem isPrefix_dropClosing : dropClosing text <+: text := by
  have body : dropEndWhile isSpaceOrTab text <+: text := List.rdropWhile_prefix _ _
  have opened : dropEndWhile (· == '#') (dropEndWhile isSpaceOrTab text) <+:
      dropEndWhile isSpaceOrTab text := List.rdropWhile_prefix _ _
  simp only [dropClosing]
  split
  · exact (List.rdropWhile_prefix _ _).trans (opened.trans body)
  · exact body

/-- Of a heading's text with blanks behind it, no less is kept than without them. -/
theorem blank_dropClosing_of_append (blank : Blank extra)
    (nothing : Blank (dropClosing (text ++ extra))) : Blank (dropClosing text) := by
  by_cases within : extra.all isSpaceOrTab = true
  · have same : dropClosing (text ++ extra) = dropClosing text := by
      simp only [dropClosing, dropEndWhile_append, within, ↓reduceIte]
    rwa [same] at nothing
  · have body : dropEndWhile isSpaceOrTab (text ++ extra) =
        text ++ dropEndWhile isSpaceOrTab extra := by
      rw [dropEndWhile_append, if_neg within]
    -- The last character is a blank and so no part of a closing run.
    have opened : dropEndWhile (· == '#') (text ++ dropEndWhile isSpaceOrTab extra) =
        text ++ dropEndWhile isSpaceOrTab extra := by
      refine List.rdropWhile_eq_self_iff.mpr ?_
      have visible : dropEndWhile isSpaceOrTab extra ≠ [] :=
        mt List.rdropWhile_eq_nil_iff.mp (by simpa using within)
      intro nonempty hash
      rw [List.getLast_append_of_ne_nil _ visible] at hash
      have inside : (dropEndWhile isSpaceOrTab extra).getLast visible ∈ extra :=
        (List.rdropWhile_prefix isSpaceOrTab extra).mem (List.getLast_mem visible)
      have marked := blank _ inside
      rw [beq_iff_eq.mp hash] at marked
      cases marked
    have whole : dropClosing (text ++ extra) = text ++ dropEndWhile isSpaceOrTab extra := by
      simp [dropClosing, body, opened]
    intro c inside
    exact nothing c (whole ▸ List.mem_append_left _ (isPrefix_dropClosing.mem inside))

theorem Ordinary.of_append (ordinary : Ordinary (line ++ extra)) (blank : Blank extra) :
    Ordinary line := by
  obtain ⟨unfenced, plain⟩ := ordinary
  rw [fenceAfter_none_eq_none_iff] at unfenced
  rw [heading?_eq_none_iff] at plain
  constructor
  · rw [fenceAfter_none_eq_none_iff]
    intro fence found
    obtain ⟨indent, whole, near, kind, wide, next⟩ := fenceLine?_eq_some_iff.mp found
    have unmarked (c : Char) (inside : c ∈ extra) : c ≠ '`' ∧ c ≠ '~' := by
      constructor <;>
      · rintro rfl
        cases blank _ inside
    have behind : (fence.info ++ extra).head? ≠ some fence.mark := by
      cases info : fence.info with
      | nil =>
        intro first
        have inside := List.mem_of_head? first
        rcases kind with kind | kind
        · exact (unmarked _ inside).1 kind
        · exact (unmarked _ inside).2 kind
      | cons c rest => rwa [info] at next
    have longer : fenceLine? (line ++ extra) =
        some ⟨fence.mark, fence.width, fence.info ++ extra⟩ :=
      fenceLine?_eq_some_iff.mpr ⟨indent, by simp [whole], near, kind, wide, behind⟩
    have none : '`' ∉ extra := fun inside => (unmarked _ inside).1 rfl
    simpa [FenceLine.opens, none] using unfenced _ longer
  · rw [heading?_eq_none_iff]
    intro level title found
    obtain ⟨indent, c, rest, rfl, near, least, most, space, rfl⟩ :=
      headingLine?_eq_some_iff.mp found
    have longer : headingLine? (List.replicate indent ' ' ++
        (List.replicate level '#' ++ c :: rest) ++ extra) =
        some (level, trimChars (dropClosing ((rest ++ extra).dropWhile isSpaceOrTab))) :=
      headingLine?_eq_some_iff.mpr
        ⟨indent, c, rest ++ extra, by simp, near, least, most, space, rfl⟩
    have nothing := plain level _ longer
    rw [trimChars_eq_nil_iff] at nothing ⊢
    rw [List.dropWhile_append] at nothing
    split at nothing
    · next empty =>
      rw [List.isEmpty_iff.mp empty]
      exact nofun
    · exact blank_dropClosing_of_append blank nothing

/-- A title without a number in front, and without anything that reading a heading drops. -/
structure PlainTitle (title : List Char) : Prop where
  nonempty : title ≠ []
  trimmed : trimChars title = title
  single : '\n' ∉ title
  unnumbered : ∀ c rest, title = c :: rest → isDecimalDigit c = false
  unclosed : ∀ before c run, title = before ++ c :: run → isSpaceOrTab c = true → run ≠ [] →
    ∃ other ∈ run, other ≠ '#'

theorem PlainTitle.of_ends (nonempty : title ≠ []) (trimmed : trimChars title = title)
    (single : '\n' ∉ title) (first : title.head?.any isDecimalDigit = false)
    (last : title.getLast? ≠ some '#') : PlainTitle title where
  nonempty := nonempty
  trimmed := trimmed
  single := single
  unnumbered c rest starts := by simpa [starts] using first
  unclosed before c run split _ closing := by
    refine ⟨run.getLast closing, List.getLast_mem closing, ?_⟩
    intro hash
    refine last ?_
    rw [split, List.getLast?_append_of_ne_nil _ (List.cons_ne_nil _ _), List.getLast?_cons,
      List.getLast?_eq_some_getLast closing, hash]
    rfl

theorem isBlank_of_isSpaceOrTab {c : Char} (space : isSpaceOrTab c = true) : isBlank c = true := by
  simp only [isSpaceOrTab, Bool.or_eq_true, beq_iff_eq] at space
  rcases space with rfl | rfl <;> rfl

theorem PlainTitle.endsPlain (plain : PlainTitle title) : EndsPlain title := by
  have ends := ((trimChars_eq_self_iff title).mp plain.trimmed).2
  have visible := List.rdropWhile_eq_self_iff.mp ends plain.nonempty
  exact ⟨_, List.getLast?_eq_some_getLast plain.nonempty, by simpa using visible⟩

theorem PlainTitle.dropWhile (plain : PlainTitle title) :
    title.dropWhile isSpaceOrTab = title := by
  have starts := ((trimChars_eq_self_iff title).mp plain.trimmed).1
  cases title with
  | nil => rfl
  | cons c rest =>
    have visible := List.head?_dropWhile_not isBlank (c :: rest)
    rw [starts] at visible
    refine List.dropWhile_cons_of_neg ?_
    intro space
    simp [isBlank_of_isSpaceOrTab space] at visible

theorem PlainTitle.dropClosing (plain : PlainTitle title) : dropClosing title = title := by
  obtain ⟨last, found, visible⟩ := plain.endsPlain
  have body : dropEndWhile isSpaceOrTab title = title := by
    refine List.rdropWhile_eq_self_iff.mpr ?_
    intro nonempty space
    rw [List.getLast?_eq_some_getLast nonempty, Option.some.injEq] at found
    rw [found] at space
    exact Bool.false_ne_true (visible.symm.trans (isBlank_of_isSpaceOrTab space))
  simp only [Outline.dropClosing, body, ite_eq_right_iff, and_imp]
  intro shorter space
  obtain ⟨c, behind, isSpace⟩ := (Option.any_eq_true _ _).mp space
  obtain ⟨before, opened⟩ := List.getLast?_eq_some_iff.mp behind
  have whole : dropEndWhile (· == '#') title ++ title.rtakeWhile (· == '#') = title :=
    List.rdropWhile_append_rtakeWhile
  have split : title = before ++ c :: title.rtakeWhile (· == '#') := by
    rw [opened, List.append_assoc, List.singleton_append] at whole
    exact whole.symm
  have closing : title.rtakeWhile (· == '#') ≠ [] := by
    intro empty
    rw [empty, List.append_nil] at whole
    rw [whole] at shorter
    exact Nat.lt_irrefl _ shorter
  obtain ⟨other, inside, differs⟩ := plain.unclosed before c _ split isSpace closing
  have hash := List.mem_rtakeWhile_imp inside
  exact absurd (beq_iff_eq.mp hash) differs

theorem PlainTitle.headingNumber (plain : PlainTitle title) : headingNumber title = [] := by
  have none : dottedNumber? title = none := by
    cases title with
    | nil => exact absurd rfl plain.nonempty
    | cons c rest =>
      have other := plain.unnumbered c rest rfl
      simp [dottedNumber?, separated?, other]
  rw [Text.headingNumber, none]

theorem PlainTitle.heading? (plain : PlainTitle title) (least : 1 ≤ level) (most : level ≤ 6) :
    heading? number (List.replicate level '#' ++ ' ' :: title) =
      some ⟨number, UInt8.ofNat level, String.ofList title, false, []⟩ := by
  have found : headingLine? (List.replicate level '#' ++ ' ' :: title) = some (level, title) :=
    headingLine?_eq_some_iff.mpr ⟨0, ' ', title, rfl, Nat.zero_le _, least, most, rfl,
      by rw [plain.dropWhile, plain.dropClosing, plain.trimmed]⟩
  simp [Outline.heading?, found, plain.headingNumber, plain.nonempty]

end DocContract.Outline
