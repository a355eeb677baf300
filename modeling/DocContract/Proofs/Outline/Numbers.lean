import DocContract.Proofs.Outline.Reading
import DocContract.Proofs.Text.Numbering

/-!
The numbers of headings.  The components of a number that are read are those of the digits `0` to
`9` that fit into 32 bits, and the others are left out.
-/

namespace DocContract.Text

variable {c : Char} {part title : List Char} {parts : List (List Char)}

def decimalDigitValue (c : Char) : Nat :=
  match decimalZeros.find? fun least => least ≤ c.toNat && c.toNat < least + 10 with
  | some least => c.toNat - least
  | none => 0

def decimalValue (digits : List Char) : Nat :=
  digits.foldl (fun value c => value * 10 + decimalDigitValue c) 0

theorem decimalDigitValue_of_isAsciiDigit (digit : isAsciiDigit c = true) :
    decimalDigitValue c = digitValue c := by
  have range := toNat_of_isAsciiDigit digit
  have first : (decimalZeros.find? fun least => least ≤ c.toNat && c.toNat < least + 10) =
      some 48 := by
    rw [decimalZeros]
    exact List.find?_cons_of_pos (by simp; omega)
  rw [decimalDigitValue, first]
  rfl

theorem decimalValue_of_isAsciiDigit (digits : part.all isAsciiDigit = true) :
    decimalValue part = natOfDigits part := by
  refine List.foldl_ext _ _ _ fun value c member => ?_
  rw [decimalDigitValue_of_isAsciiDigit (List.all_eq_true.mp digits c member)]

/-- A component that can be read: the digits `0` to `9` only, and a value of 32 bits. -/
def Readable (part : List Char) : Prop :=
  part.all isAsciiDigit = true ∧ decimalValue part < UInt32.size

instance (part : List Char) : Decidable (Readable part) :=
  inferInstanceAs (Decidable (_ ∧ _))

theorem word?_eq (nonempty : part ≠ []) :
    word? part = if Readable part then some (UInt32.ofNat (decimalValue part)) else none := by
  by_cases digits : part.all isAsciiDigit = true
  · have read : nat? part = some (natOfDigits part) := if_pos ⟨nonempty, digits⟩
    rw [word?, read, Option.bind_some, ← decimalValue_of_isAsciiDigit digits]
    exact if_congr (and_iff_right digits).symm rfl rfl
  · have unread : nat? part = none := if_neg fun both => digits both.2
    rw [word?, unread, if_neg fun readable => digits readable.1]
    rfl

theorem toNat_filterMap_word? (filled : ∀ part ∈ parts, part ≠ []) :
    (parts.filterMap word?).map UInt32.toNat = (parts.filter (Readable ·)).map decimalValue := by
  induction parts with
  | nil => rfl
  | cons part rest ih =>
    obtain ⟨nonempty, others⟩ := List.forall_mem_cons.mp filled
    have read := word?_eq nonempty
    by_cases readable : Readable part
    · rw [if_pos readable] at read
      rw [List.filterMap_cons_some read, List.filter_cons_of_pos (by simpa using readable),
        List.map_cons, List.map_cons, ih others, UInt32.toNat_ofNat_of_lt' readable.2]
    · rw [if_neg readable] at read
      rw [List.filterMap_cons_none read, List.filter_cons_of_neg (by simpa using readable),
        ih others]

/-- The title starts with the number of these components, and then an optional dot, spaces or tabs,
and more text. -/
def OpensWithNumber (title : List Char) (parts : List (List Char)) : Prop :=
  ∃ dot blanks c rest, title = joinWith '.' parts ++ (dot ++ (blanks ++ c :: rest)) ∧
    parts ≠ [] ∧ (∀ part ∈ parts, part ≠ [] ∧ ∀ c ∈ part, isDecimalDigit c = true) ∧
    (dot = [] ∨ dot = ['.']) ∧ blanks ≠ [] ∧ (∀ b ∈ blanks, isSpaceOrTab b = true) ∧
    isBlank c = false

theorem opensWithNumber_space {rest : List Char}
    (whole : title = joinWith '.' parts ++ ' ' :: c :: rest) (nonempty : parts ≠ [])
    (digits : parts.all (fun part => !part.isEmpty && part.all isDecimalDigit) = true)
    (visible : isBlank c = false) : OpensWithNumber title parts := by
  refine ⟨[], [' '], c, rest, whole, nonempty, fun part member => ?_, .inl rfl,
    List.cons_ne_nil _ _, List.forall_mem_singleton.mpr rfl, visible⟩
  simpa using List.all_eq_true.mp digits part member

theorem headingNumber_eq_of_opens (opens : OpensWithNumber title parts) :
    headingNumber title = parts := by
  obtain ⟨dot, blanks, c, rest, rfl, nonempty, digits, dotted, spaced, blank, visible⟩ := opens
  obtain ⟨space, more, rfl⟩ := List.exists_cons_of_ne_nil spaced
  obtain ⟨own, others⟩ := List.forall_mem_cons.mp blank
  have text : (more ++ c :: rest).dropWhile isSpaceOrTab = c :: rest := by
    refine dropWhile_run_append others fun d first => ?_
    obtain rfl := Option.some.inj first
    exact Bool.eq_false_iff.mpr fun space =>
      Bool.false_ne_true (visible.symm.trans (Outline.isBlank_of_isSpaceOrTab space))
  rw [headingNumber, List.cons_append,
    dottedNumber?_append nonempty digits dotted (Outline.isBlank_of_isSpaceOrTab own)]
  simp [own, text, visible]

theorem separates_of_dottedNumber? {after : List Char}
    (found : dottedNumber? title = some (parts, after)) :
    ∃ dot, (dot = [] ∨ dot = ['.']) ∧ Separates isDecimalDigit '.' title parts (dot ++ after) := by
  obtain ⟨⟨read, rest⟩, runs, made⟩ := Option.map_eq_some_iff.mp found
  have cut := separates_of_separated? runs
  simp only at made
  split at made
  · obtain ⟨rfl, rfl⟩ := Prod.mk.inj made
    exact ⟨['.'], .inr rfl, cut⟩
  · obtain ⟨rfl, rfl⟩ := Prod.mk.inj made
    exact ⟨[], .inl rfl, cut⟩

theorem opens_of_headingNumber (nonempty : headingNumber title ≠ []) :
    OpensWithNumber title (headingNumber title) := by
  cases found : dottedNumber? title with
  | none => simp [headingNumber, found] at nonempty
  | some read =>
    obtain ⟨parts, after⟩ := read
    cases after with
    | nil => simp [headingNumber, found] at nonempty
    | cons c rest =>
      by_cases spaced : (isSpaceOrTab c &&
          (rest.dropWhile isSpaceOrTab).head?.any fun d => !isBlank d) = true
      · have whole : headingNumber title = parts := by simp [headingNumber, found, spaced]
        obtain ⟨own, text⟩ := Bool.and_eq_true_iff.mp spaced
        obtain ⟨d, first, visible⟩ := (Option.any_eq_true _ _).mp text
        obtain ⟨more, behind⟩ := List.head?_eq_some_iff.mp first
        obtain ⟨dot, dotted, cut⟩ := separates_of_dottedNumber? found
        have blanks : ∀ b ∈ c :: rest.takeWhile isSpaceOrTab, isSpaceOrTab b = true :=
          List.forall_mem_cons.mpr ⟨own, fun b => List.mem_takeWhile_imp⟩
        rw [whole]
        refine ⟨dot, c :: rest.takeWhile isSpaceOrTab, d, more, ?_, cut.nonempty, cut.runs, dotted,
          List.cons_ne_nil _ _, blanks, by simpa using visible⟩
        rw [← behind, List.cons_append, List.takeWhile_append_dropWhile]
        exact cut.whole
      · exact absurd (by simp [headingNumber, found, spaced]) nonempty

/-- Only the components of the number that the title starts with are read. -/
theorem headingNumber_eq_iff (nonempty : parts ≠ []) :
    headingNumber title = parts ↔ OpensWithNumber title parts :=
  ⟨fun same => same ▸ opens_of_headingNumber (same ▸ nonempty), headingNumber_eq_of_opens⟩

end DocContract.Text

namespace DocContract.Outline

open DocContract.Text

variable {text : String} {heading : Heading} {parts : List (List Char)}

theorem numberParts_eq (member : heading ∈ scanHeadings text) :
    heading.numberParts = (headingNumber heading.title.toList).filterMap word? ∧
      heading.numbered = !heading.numberParts.isEmpty := by
  obtain ⟨⟨number, line⟩, _, found⟩ := List.mem_filterMap.mp member
  obtain ⟨⟨level, title⟩, _, made⟩ := Option.bind_eq_some_iff.mp found
  simp only [Option.ite_none_left_eq_some, Option.some.injEq] at made
  obtain ⟨_, rfl⟩ := made
  exact ⟨by rw [String.toList_ofList], rfl⟩

/-- The number of the heading has all components. -/
def Complete (heading : Heading) (parts : List (List Char)) : Prop :=
  heading.numberParts.map UInt32.toNat = parts.map decimalValue

/-- The number of a heading is that in front of its title without the components that are not
readable.  So it is complete exactly if all are readable, and neither complete nor empty exactly if
some are and others are not. -/
theorem numberParts_of_title (text : String) (heading : Heading)
    (member : heading ∈ scanHeadings text) :
    (heading.numbered = true ↔ heading.numberParts ≠ []) ∧
      ((∀ parts, ¬ OpensWithNumber heading.title.toList parts) → heading.numberParts = []) ∧
      ∀ parts, OpensWithNumber heading.title.toList parts →
        heading.numberParts.map UInt32.toNat = (parts.filter (Readable ·)).map decimalValue ∧
          (Complete heading parts ↔ ∀ part ∈ parts, Readable part) ∧
          (Complete heading parts ∨ heading.numberParts = [] ↔
            (∀ part ∈ parts, Readable part) ∨ ∀ part ∈ parts, ¬ Readable part) := by
  obtain ⟨read, numbered⟩ := numberParts_eq member
  refine ⟨by simp [numbered], fun plain => ?_, fun parts opens => ?_⟩
  · have none : headingNumber heading.title.toList = [] :=
      not_not.mp fun some => plain _ (opens_of_headingNumber some)
    rw [read, none, List.filterMap_nil]
  · have filled : ∀ part ∈ parts, part ≠ [] := by
      obtain ⟨_, _, _, _, _, _, digits, _⟩ := opens
      exact fun part listed => (digits part listed).1
    have values : heading.numberParts.map UInt32.toNat =
        (parts.filter (Readable ·)).map decimalValue := by
      rw [read, headingNumber_eq_of_opens opens, toNat_filterMap_word? filled]
    have complete : Complete heading parts ↔ ∀ part ∈ parts, Readable part := by
      rw [Complete, values]
      constructor
      · intro same
        have size := congrArg List.length same
        rw [List.length_map, List.length_map, List.length_filter_eq_length_iff] at size
        simpa using size
      · intro all
        rw [List.filter_eq_self.mpr (by simpa using all)]
    have empty : heading.numberParts = [] ↔ ∀ part ∈ parts, ¬ Readable part := by
      rw [← List.map_eq_nil_iff, values, List.map_eq_nil_iff, List.filter_eq_nil_iff]
      simp
    exact ⟨values, complete, or_congr complete empty⟩

/-- A number of two components, and a closing run that is no part of the title. -/
theorem numberParts_dataModel :
    ⟨3, 3, "3.2 Data Model", true, [3, 2]⟩ ∈ scanHeadings "# Notes\n\n### 3.2 Data Model ##\n" ∧
      OpensWithNumber "3.2 Data Model".toList ["3".toList, "2".toList] ∧
      Complete ⟨3, 3, "3.2 Data Model", true, [3, 2]⟩ ["3".toList, "2".toList] := by
  have member : ⟨3, 3, "3.2 Data Model", true, [3, 2]⟩ ∈
      scanHeadings "# Notes\n\n### 3.2 Data Model ##\n" := by
    decide +kernel
  have opens : OpensWithNumber "3.2 Data Model".toList ["3".toList, "2".toList] :=
    opensWithNumber_space rfl (List.cons_ne_nil _ _) rfl rfl
  obtain ⟨_, _, number⟩ := numberParts_of_title _ _ member
  obtain ⟨_, complete, _⟩ := number _ opens
  exact ⟨member, opens, complete.mpr (by decide +kernel)⟩

/-- The component in the middle does not fit into 32 bits, but those around it are read. -/
theorem numberParts_overflow :
    ⟨1, 1, "1.4294967296.3 Scope", true, [1, 3]⟩ ∈ scanHeadings "# 1.4294967296.3 Scope\n" ∧
      OpensWithNumber "1.4294967296.3 Scope".toList
        ["1".toList, "4294967296".toList, "3".toList] ∧
      ¬ (Complete ⟨1, 1, "1.4294967296.3 Scope", true, [1, 3]⟩
          ["1".toList, "4294967296".toList, "3".toList] ∨ ([1, 3] : List UInt32) = []) := by
  have opens : OpensWithNumber "1.4294967296.3 Scope".toList
      ["1".toList, "4294967296".toList, "3".toList] :=
    opensWithNumber_space rfl (List.cons_ne_nil _ _) rfl rfl
  exact ⟨by decide +kernel, opens, by unfold Complete; decide⟩

end DocContract.Outline
