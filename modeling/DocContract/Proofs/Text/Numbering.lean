import DocContract.Proofs.Text.CaseMap
import DocContract.Proofs.Text.Lines
import DocContract.Proofs.Text.Separated
import DocContract.Text.Numbering

namespace DocContract.Text

/-- A dotted number of ASCII digits, with or without a dot behind it, and one or more blanks. -/
inductive NumberPrefix : List Char → Prop where
  | intro (parts : List (List Char)) (dot blanks : List Char) (nonempty : parts ≠ [])
      (digits : ∀ part ∈ parts, part ≠ [] ∧ ∀ c ∈ part, isAsciiDigit c = true)
      (dotted : dot = [] ∨ dot = ['.']) (spaced : blanks ≠ []) (blank : Blank blanks) :
      NumberPrefix (joinWith '.' parts ++ dot ++ blanks)

/-- The title starts with neither a digit nor a blank. -/
def IsBare (title : List Char) : Prop :=
  ∃ c ∈ title.head?, OpensTitle c

/-- The title is the bare one, or this behind a number. -/
def Numbered (title bare : List Char) : Prop :=
  title = bare ∨ ∃ front, NumberPrefix front ∧ title = front ++ bare

section

variable {front title bare chars more : List Char} {parts : List (List Char)} {c : Char}

theorem NumberPrefix.starts (number : NumberPrefix front) :
    ∃ c rest, front = c :: rest ∧ isAsciiDigit c = true := by
  obtain ⟨parts, dot, blanks, nonempty, digits, _, _, _⟩ := number
  obtain ⟨part, others, rfl⟩ := List.exists_cons_of_ne_nil nonempty
  obtain ⟨some, members⟩ := digits part List.mem_cons_self
  obtain ⟨c, rest, rfl⟩ := List.exists_cons_of_ne_nil some
  refine ⟨c, ?_⟩
  cases others with
  | nil => exact ⟨_, rfl, members c List.mem_cons_self⟩
  | cons next others => exact ⟨_, rfl, members c List.mem_cons_self⟩

theorem NumberPrefix.dropWhile_isBlank (number : NumberPrefix front) (rest : List Char) :
    (front ++ rest).dropWhile isBlank = front ++ rest := by
  obtain ⟨c, behind, rfl, digit⟩ := number.starts
  exact List.dropWhile_cons_of_neg (by simp [isBlank_of_isAsciiDigit digit])

theorem NumberPrefix.ends (number : NumberPrefix front) :
    ∃ start blank, front = start ++ [blank] ∧ isBlank blank = true := by
  obtain ⟨parts, dot, blanks, _, _, _, spaced, blank⟩ := number
  refine ⟨joinWith '.' parts ++ dot ++ blanks.dropLast, blanks.getLast spaced, ?_,
    blank _ (List.getLast_mem spaced)⟩
  rw [List.append_assoc _ blanks.dropLast, List.dropLast_append_getLast]

/-- A number has no other lower case form. -/
theorem NumberPrefix.lowerChar_eq (number : NumberPrefix front) :
    ∀ c ∈ front, lowerChar c = [c] := by
  obtain ⟨parts, dot, blanks, _, digits, dotted, _, blank⟩ := number
  intro c member
  rw [List.mem_append, List.mem_append] at member
  rcases member with (inside | point) | behind
  · rcases mem_joinWith inside with rfl | ⟨part, listed, inside⟩
    · decide
    · exact lowerChar_of_isAsciiDigit ((digits part listed).2 c inside)
  · rcases dotted with rfl | rfl
    · cases point
    · rw [List.mem_singleton.mp point]
      decide
  · exact lowerChar_of_isBlank (blank c behind)

theorem dottedNumber?_append {dot : List Char} {blank : Char} (nonempty : parts ≠ [])
    (digits : ∀ part ∈ parts, part ≠ [] ∧ ∀ c ∈ part, isDecimalDigit c = true)
    (dotted : dot = [] ∨ dot = ['.']) (spaced : isBlank blank = true) (rest : List Char) :
    dottedNumber? (joinWith '.' parts ++ (dot ++ blank :: rest)) = some (parts, blank :: rest) := by
  have noDigit : isDecimalDigit blank = false := isDecimalDigit_of_isBlank spaced
  have foreign : isDecimalDigit '.' = false := by decide
  have final : separated? isDecimalDigit '.' (blank :: rest) = none := by
    simp [separated?, noDigit]
  have noDot : blank ≠ '.' := by
    rintro rfl
    exact absurd spaced (by decide)
  rcases dotted with rfl | rfl
  · rw [dottedNumber?, List.nil_append, separated?_joinWith nonempty digits foreign
      (by simpa using noDigit) (by simp [noDot])]
    simp [noDot]
  · rw [dottedNumber?, separated?_joinWith nonempty digits foreign (by simpa using foreign)
      (by simpa using final)]
    rfl

theorem IsBare.exists_cons (isBare : IsBare bare) :
    ∃ c rest, bare = c :: rest ∧ OpensTitle c := by
  obtain ⟨c, starts, opens⟩ := isBare
  obtain ⟨rest, whole⟩ := List.head?_eq_some_iff.mp starts
  exact ⟨c, rest, whole, opens⟩

theorem IsBare.dropWhile_isBlank (isBare : IsBare bare) : bare.dropWhile isBlank = bare := by
  obtain ⟨c, rest, rfl, opens⟩ := isBare.exists_cons
  exact List.dropWhile_cons_of_neg (by simp [opens.2])

theorem dropNumber_of_isBare (isBare : IsBare bare) : dropNumber bare = bare := by
  have none : dottedNumber? bare = none := by
    obtain ⟨c, rest, rfl, opens⟩ := isBare.exists_cons
    simp [dottedNumber?, separated?, opens.1]
  rw [dropNumber, isBare.dropWhile_isBlank, none]

/-- A number in front of a bare title is dropped whole, and nothing else. -/
theorem dropNumber_append (number : NumberPrefix front) (isBare : IsBare bare) :
    dropNumber (front ++ bare) = bare := by
  have visible := number.dropWhile_isBlank bare
  obtain ⟨parts, dot, blanks, nonempty, digits, dotted, spaced, blank⟩ := number
  obtain ⟨space, more, rfl⟩ := List.exists_cons_of_ne_nil spaced
  obtain ⟨own, others⟩ := List.forall_mem_cons.mp blank
  have runs : ∀ part ∈ parts, part ≠ [] ∧ ∀ c ∈ part, isDecimalDigit c = true :=
    fun part member => (digits part member).imp_right fun members c inside =>
      isDecimalDigit_of_isAsciiDigit (members c inside)
  rw [dropNumber, visible, List.append_assoc, List.append_assoc, List.cons_append,
    dottedNumber?_append nonempty runs dotted own]
  simp only [own, ↓reduceIte]
  rw [List.dropWhile_append_of_pos others, isBare.dropWhile_isBlank]

theorem dropNumber_of_numbered (numbered : Numbered title bare) (isBare : IsBare bare) :
    dropNumber title = bare := by
  rcases numbered with rfl | ⟨front, number, rfl⟩
  · exact dropNumber_of_isBare isBare
  · exact dropNumber_append number isBare

/-- The title without blanks at its ends and in lower case. -/
def lowerTrimmed (title : List Char) : List Char :=
  lowerFrom [] (trimChars title)

theorem IsBare.trimChars_eq (isBare : IsBare bare) :
    trimChars bare = dropEndWhile isBlank bare := by
  rw [trimChars, isBare.dropWhile_isBlank]

theorem IsBare.trim (isBare : IsBare bare) : IsBare (trimChars bare) := by
  rw [isBare.trimChars_eq]
  obtain ⟨c, rest, rfl, opens⟩ := isBare.exists_cons
  refine ⟨c, ?_, opens⟩
  rw [← List.singleton_append, dropEndWhile_append]
  split
  · simp [dropEndWhile, opens.2]
  · rfl

theorem IsBare.lower (isBare : IsBare bare) : IsBare (lowerFrom [] bare) := by
  obtain ⟨c, rest, rfl, opens⟩ := isBare.exists_cons
  obtain ⟨first, more, lowered, rfl | own⟩ := exists_lowerFrom_cons [] c rest
  · exact ⟨first, by rw [lowered]; rfl, opens⟩
  · exact ⟨first, by rw [lowered]; rfl, own⟩

/-- Lower case puts no blanks at the ends of a trimmed title. -/
theorem IsBare.trimChars_lowerTrimmed (isBare : IsBare bare) :
    trimChars (lowerTrimmed bare) = lowerTrimmed bare := by
  have visible : ∀ c ∈ (trimChars bare).getLast?, isBlank c = false := by
    intro c last
    rw [isBare.trimChars_eq] at last
    obtain ⟨nonempty, same⟩ := List.mem_getLast?_eq_getLast last
    rw [same]
    exact Bool.eq_false_iff.mpr (List.rdropWhile_last_not isBlank bare nonempty)
  rw [lowerTrimmed, isBare.trim.lower.trimChars_eq]
  refine List.rdropWhile_eq_self_iff.mpr ?_
  intro nonempty blank
  have last := getLast?_lowerFrom visible _ (List.getLast?_eq_some_getLast nonempty)
  exact Bool.false_ne_true (last.symm.trans blank)

theorem trimChars_append (number : NumberPrefix front) (isBare : IsBare bare) :
    trimChars (front ++ bare) = front ++ trimChars bare := by
  have some : ¬ bare.all isBlank = true := by
    obtain ⟨c, rest, rfl, opens⟩ := isBare.exists_cons
    simp [opens.2]
  rw [trimChars, number.dropWhile_isBlank, dropEndWhile_append, if_neg some, isBare.trimChars_eq]

/-- A number in front does not change how a title is put into lower case. -/
theorem lowerFrom_number (number : NumberPrefix front) (chars : List Char) :
    lowerFrom [] (front ++ chars) = front ++ lowerFrom [] chars := by
  obtain ⟨start, blank, ends, isBlank⟩ := number.ends
  rw [lowerFrom_append number.lowerChar_eq]
  congr 1
  rw [ends, List.reverse_concat, List.append_nil]
  exact lowerFrom_behind_blank isBlank [] start.reverse chars

theorem Numbered.lower (numbered : Numbered title bare) (isBare : IsBare bare) :
    Numbered (lowerTrimmed title) (lowerTrimmed bare) := by
  rcases numbered with rfl | ⟨front, number, rfl⟩
  · exact .inl rfl
  · refine .inr ⟨front, number, ?_⟩
    rw [lowerTrimmed, trimChars_append number isBare, lowerFrom_number number]
    rfl

end

end DocContract.Text
