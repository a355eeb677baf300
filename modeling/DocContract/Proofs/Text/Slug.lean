import DocContract.Proofs.Text.CaseMap
import DocContract.Proofs.Text.Separated
import DocContract.Text.Slug

/-!
Names made from titles.  Anchors stay on the line of the title that they are made from.  A slug is
the runs of ASCII letters and digits in lower case with dashes between them, and it is its own slug.
-/

namespace DocContract.Text

variable {chars before : List Char}

theorem feed_notMem_lowerFrom (feed : '\n' ∉ chars) : '\n' ∉ lowerFrom before chars := by
  intro member
  rcases mem_or_opensTitle_of_mem_lowerFrom member with inside | opens
  · exact feed inside
  · exact absurd opens (by decide)

theorem feed_notMem_anchor {title : String} (feed : '\n' ∉ title.toList) :
    '\n' ∉ (anchor title).toList := by
  have trimmed : '\n' ∉ trimChars title.toList := fun inside =>
    feed ((trimChars_sublist title.toList).mem inside)
  have lowered : '\n' ∉ lowerFrom [] (trimChars title.toList) := feed_notMem_lowerFrom trimmed
  simp only [anchor, lowercase, trim, String.toList_ofList, List.mem_filterMap, not_exists, not_and]
  intro c member kept
  rw [anchorChar?] at kept
  split at kept
  · cases kept
  · rw [Option.ite_none_right_eq_some] at kept
    obtain rfl := Option.some.inj kept.2
    exact lowered member

/-- The slug consists of the words with one dash between neighbours, and these of lower case letters
and digits of ASCII. -/
structure IsSlugOf (words : List (List Char)) (slug : String) : Prop where
  whole : slug.toList = joinWith '-' words
  words : ∀ word ∈ words, word ≠ [] ∧ ∀ c ∈ word, c.isLower = true ∨ c.isDigit = true

def lowerWord (word : List Char) : List Char :=
  word.map Char.toLower

section

variable {c : Char} {word rest text : List Char} {found words : List (List Char)} {apart : Bool}

theorem toNat_of_isAsciiAlphanumeric (member : isAsciiAlphanumeric c = true) : c.toNat < 0x80 := by
  simp only [isAsciiAlphanumeric, isAsciiLetter, isAsciiDigit, Bool.or_eq_true, Bool.and_eq_true,
    decide_eq_true_eq, Char.le_def, UInt32.le_iff_toNat_le, Char.reduceVal,
    UInt32.reduceToNat] at member
  simp only [Char.toNat]
  omega

theorem small_toLower (member : isAsciiAlphanumeric c = true) :
    c.toLower.isLower = true ∨ c.toLower.isDigit = true := by
  have all : ∀ code < 0x80, isAsciiAlphanumeric (Char.ofNat code) = true →
      (Char.ofNat code).toLower.isLower = true ∨ (Char.ofNat code).toLower.isDigit = true := by
    decide +kernel
  have own := all c.toNat (toNat_of_isAsciiAlphanumeric member)
  rw [Char.ofNat_toNat] at own
  exact own member

theorem member_of_small (small : c.isLower = true ∨ c.isDigit = true) :
    isAsciiAlphanumeric c = true ∧ c.toLower = c := by
  have all : ∀ code < 0x80, (Char.ofNat code).isLower = true ∨ (Char.ofNat code).isDigit = true →
      isAsciiAlphanumeric (Char.ofNat code) = true ∧
        (Char.ofNat code).toLower = Char.ofNat code := by
    decide +kernel
  have bound : c.toNat < 0x80 := by
    have spans : (c.val ≥ 'a'.val && c.val ≤ 'z'.val) = true ∨
        (c.val ≥ '0'.val && c.val ≤ '9'.val) = true := small
    simp only [Bool.and_eq_true, decide_eq_true_eq, ge_iff_le, UInt32.le_iff_toNat_le,
      Char.reduceVal, UInt32.reduceToNat] at spans
    simp only [Char.toNat]
    omega
  have own := all c.toNat bound
  rw [Char.ofNat_toNat] at own
  exact own small

theorem slugFrom_run (members : ∀ c ∈ word, isAsciiAlphanumeric c = true) (rest : List Char) :
    slugFrom true false (word ++ rest) = lowerWord word ++ slugFrom true false rest := by
  induction word with
  | nil => rfl
  | cons c more ih =>
    obtain ⟨own, others⟩ := List.forall_mem_cons.mp members
    rw [List.cons_append, slugFrom, if_pos own, Bool.and_false, if_neg Bool.false_ne_true,
      ih others]
    rfl

/-- Behind a word every further one is written with a dash in front.  Where nothing has been passed
since, the text must not go on with the word. -/
theorem slugFrom_started (cut : HasRuns isAsciiAlphanumeric text found)
    (ended : apart = false → ∀ c ∈ text.head?, isAsciiAlphanumeric c = false) :
    slugFrom true apart text = (found.map lowerWord).flatMap ('-' :: ·) := by
  induction cut generalizing apart with
  | nil => rfl
  | other outside _ ih => rw [slugFrom, if_neg (by simp [outside]), ih (by simp)]
  | @run word rest found nonempty members behind _ ih =>
    obtain ⟨c, more, rfl⟩ := List.exists_cons_of_ne_nil nonempty
    obtain ⟨own, others⟩ := List.forall_mem_cons.mp members
    obtain rfl : apart = true := by
      by_contra attached
      have outside := ended (Bool.eq_false_iff.mpr attached) c rfl
      rw [own] at outside
      cases outside
    rw [List.cons_append, slugFrom, if_pos own, Bool.and_self, if_pos rfl, slugFrom_run others,
      ih fun _ => behind]
    rfl

/-- In front of the first word no dash is written. -/
theorem slugFrom_unstarted (cut : HasRuns isAsciiAlphanumeric text found) :
    slugFrom false apart text = joinWith '-' (found.map lowerWord) := by
  induction cut generalizing apart with
  | nil => rfl
  | other outside _ ih => rw [slugFrom, if_neg (by simp [outside]), ih]
  | @run word rest found nonempty members ended behind _ =>
    obtain ⟨c, more, rfl⟩ := List.exists_cons_of_ne_nil nonempty
    obtain ⟨own, others⟩ := List.forall_mem_cons.mp members
    rw [List.cons_append, slugFrom, if_pos own, Bool.false_and, if_neg Bool.false_ne_true,
      slugFrom_run others, slugFrom_started behind fun _ => ended, List.map_cons,
      joinWith_cons_eq_flatMap]
    rfl

end

section

variable {title slug : String} {found words : List (List Char)}

theorem isSlugOf_slugify (cut : HasRuns isAsciiAlphanumeric title.toList found) :
    IsSlugOf (found.map lowerWord) (slugify title) where
  whole := by rw [slugify, String.toList_ofList, slugFrom_unstarted cut]
  words := by
    intro word member
    obtain ⟨run, inside, rfl⟩ := List.mem_map.mp member
    obtain ⟨nonempty, members⟩ := cut.of_mem inside
    refine ⟨by simpa [lowerWord] using nonempty, List.forall_mem_map.mpr ?_⟩
    intro c own
    exact small_toLower (members c own)

theorem IsSlugOf.eq_empty_iff (spelled : IsSlugOf words slug) : slug = "" ↔ words = [] := by
  rw [← String.toList_eq_nil_iff, spelled.whole]
  exact joinWith_eq_nil_iff fun word member => (spelled.words word member).1

/-- The words of a slug are its runs. -/
theorem IsSlugOf.hasRuns (spelled : IsSlugOf words slug) :
    HasRuns isAsciiAlphanumeric slug.toList words := by
  rw [spelled.whole]
  refine hasRuns_joinWith ?_ (by decide)
  intro word member
  obtain ⟨nonempty, small⟩ := spelled.words word member
  exact ⟨nonempty, fun c inside => (member_of_small (small c inside)).1⟩

theorem IsSlugOf.slugify_eq (spelled : IsSlugOf words slug) : slugify slug = slug := by
  have same (word : List Char) (member : word ∈ words) : lowerWord word = id word := by
    refine (List.map_congr_left fun c inside => ?_).trans (List.map_id word)
    exact (member_of_small ((spelled.words word member).2 c inside)).2
  have kept : words.map lowerWord = words := (List.map_congr_left same).trans (List.map_id words)
  have again := (isSlugOf_slugify spelled.hasRuns).whole
  rw [kept, ← spelled.whole] at again
  exact String.toList_injective again

end

/-- A title's slug has its runs of ASCII letters and digits as words, in their order and in lower
case.  It is empty if there are none, and a slug stays as it is. -/
theorem slugify_lower_runs (title : String) :
    (∃ found, HasRuns isAsciiAlphanumeric title.toList found ∧
        IsSlugOf (found.map lowerWord) (slugify title)) ∧
      (slugify title = "" ↔ ∀ c ∈ title.toList, isAsciiAlphanumeric c = false) ∧
      slugify (slugify title) = slugify title ∧
      ∀ words slug, IsSlugOf words slug → slugify slug = slug := by
  have cut := hasRuns_runs isAsciiAlphanumeric title.toList
  have spelled := isSlugOf_slugify cut
  refine ⟨⟨_, cut, spelled⟩, ?_, spelled.slugify_eq, fun words slug own => own.slugify_eq⟩
  rw [spelled.eq_empty_iff, List.map_eq_nil_iff, cut.eq_nil_iff]

example : slugify "-- Größe: Wide & 2nd --" = "gr-e-wide-2nd" := by decide +kernel

end DocContract.Text
