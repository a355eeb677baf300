import DocContract.Proofs.Outline.Reading

namespace DocContract.Outline

open DocContract.Text

variable {text front back line extra : List Char} {lines : List (List Char)} {number : Nat}
variable {headings more : List Heading}

def Heading.unplaced (heading : Heading) : Heading :=
  { heading with line := 0 }

theorem unplaced_heading? (number : Nat) (line : List Char) :
    (heading? number line).map Heading.unplaced = heading? 0 line := by
  simp only [heading?]
  cases headingLine? line with
  | none => rfl
  | some found =>
    obtain ⟨level, title⟩ := found
    cases title <;> simp [Heading.unplaced]

theorem map_unplaced_headingsOfLines (unfenced : ∀ line ∈ lines, fenceAfter none line = none)
    (number : Nat) :
    (headingsOfLines none number lines).map Heading.unplaced = lines.filterMap (heading? 0) := by
  induction lines generalizing number with
  | nil => rfl
  | cons line rest ih =>
    obtain ⟨first, later⟩ := List.forall_mem_cons.mp unfenced
    have behind := ih later (number + 1)
    rw [headingsOfLines] at behind
    rw [headingsOfLines, outsideFences, first]
    simp only [Option.isNone_none, Bool.and_self, ↓reduceIte, List.filterMap_cons]
    rw [← unplaced_heading? number line]
    cases heading? number line with
    | none => exact behind
    | some heading => rw [List.map_cons, behind, Option.map_some]

theorem line_of_heading? {heading : Heading} (found : heading? number line = some heading) :
    heading.line = number := by
  obtain ⟨⟨level, title⟩, _, made⟩ := Option.bind_eq_some_iff.mp found
  simp only [Option.ite_none_left_eq_some, Option.some.injEq] at made
  obtain ⟨_, rfl⟩ := made
  rfl

theorem le_of_mem_outsideFences {fence : Option OpenFence} {entry : Nat × List Char}
    (member : entry ∈ outsideFences fence number lines) : number ≤ entry.1 := by
  induction lines generalizing fence number with
  | nil => cases member
  | cons line rest ih =>
    rw [outsideFences] at member
    split at member
    · rcases List.mem_cons.mp member with rfl | later
      · exact Nat.le_refl _
      · exact Nat.le_of_succ_le (ih later)
    · exact Nat.le_of_succ_le (ih member)

theorem lt_of_mem_outsideFences {fence : Option OpenFence} {entry : Nat × List Char}
    (member : entry ∈ outsideFences fence number lines) : entry.1 < number + lines.length := by
  induction lines generalizing fence number with
  | nil => cases member
  | cons line rest ih =>
    rw [List.length_cons, Nat.add_comm rest.length, ← Nat.add_assoc]
    rw [outsideFences] at member
    split at member
    · rcases List.mem_cons.mp member with rfl | later
      · exact Nat.lt_add_right _ (Nat.lt_succ_self _)
      · exact ih later
    · exact ih member

theorem length_outsideFences_le (fence : Option OpenFence) (number : Nat)
    (lines : List (List Char)) : (outsideFences fence number lines).length ≤ lines.length := by
  induction lines generalizing fence number with
  | nil => exact Nat.le_refl _
  | cons line rest ih =>
    rw [outsideFences]
    split
    · exact Nat.succ_le_succ (ih _ _)
    · exact Nat.le_succ_of_le (ih _ _)

theorem pairwise_outsideFences (fence : Option OpenFence) (number : Nat)
    (lines : List (List Char)) :
    (outsideFences fence number lines).Pairwise fun first second => first.1 < second.1 := by
  induction lines generalizing fence number with
  | nil => exact .nil
  | cons line rest ih =>
    rw [outsideFences]
    split
    · exact List.pairwise_cons.mpr ⟨fun entry => le_of_mem_outsideFences, ih _ _⟩
    · exact ih _ _

/-- The headings of a text are found in the order of their lines. -/
theorem pairwise_scanHeadings (text : String) :
    (scanHeadings text).Pairwise fun first second => first.line < second.line := by
  refine List.Pairwise.filterMap _ ?_ (pairwise_outsideFences none 1 (splitLines text.toList))
  intro first second before heading found other located
  rw [line_of_heading? found, line_of_heading? located]
  exact before

theorem length_scanHeadings_le (text : String) :
    (scanHeadings text).length ≤ (splitLines text.toList).length :=
  Nat.le_trans (List.length_filterMap_le _ _) (length_outsideFences_le none 1 _)

theorem line_le_of_mem_scanHeadings {text : String} {heading : Heading}
    (member : heading ∈ scanHeadings text) : heading.line ≤ (splitLines text.toList).length := by
  obtain ⟨⟨number, line⟩, placed, found⟩ := List.mem_filterMap.mp member
  rw [line_of_heading? found]
  have bound := lt_of_mem_outsideFences placed
  omega

/-- No line of the text opens a fence, and these are its headings but for the numbers of their
lines. -/
structure Reads (text : List Char) (headings : List Heading) : Prop where
  unfenced : ∀ line ∈ splitLines text, fenceAfter none line = none
  found : (splitLines text).filterMap (heading? 0) = headings

theorem Reads.scan {text : String} (reads : Reads text.toList headings) :
    (scanHeadings text).map Heading.unplaced = headings :=
  (map_unplaced_headingsOfLines reads.unfenced 1).trans reads.found

/-- The headings of complete lines come before those of the lines behind them. -/
theorem Reads.append (first : Reads front headings) (closed : EndsLine front)
    (second : Reads back more) : Reads (front ++ back) (headings ++ more) where
  unfenced := by
    rw [splitLines_append closed]
    exact List.forall_mem_append.mpr ⟨first.unfenced, second.unfenced⟩
  found := by
    rw [splitLines_append closed, List.filterMap_append, first.found, second.found]

theorem reads_of_ordinary (ordinary : ∀ line ∈ splitLines text, Ordinary line) :
    Reads text [] where
  unfenced line member := (ordinary line member).1
  found := List.filterMap_eq_nil_iff.mpr fun line member => (ordinary line member).2

theorem reads_feed : Reads ['\n'] [] := by
  refine reads_of_ordinary ?_
  decide +kernel

/-- A text of ordinary lines has none but these when it is trimmed at its end. -/
theorem reads_trimEnd_of_ordinary (ordinary : ∀ line ∈ splitLines text, Ordinary line) :
    Reads (dropEndWhile isBlank text ++ ['\n']) [] := by
  by_cases visible : dropEndWhile isBlank text = []
  · rw [visible]
    exact reads_feed
  · obtain ⟨before, last, extra, behind, cut, whole, blank, _⟩ := splitLines_trimEnd visible
    rw [whole, List.forall_mem_append, List.forall_mem_cons] at ordinary
    obtain ⟨earlier, longer, _⟩ := ordinary
    refine reads_of_ordinary ?_
    rw [cut, List.forall_mem_append]
    exact ⟨earlier, List.forall_mem_singleton.mpr (longer.of_append blank)⟩

/-- A text of complete lines without blanks at their ends, and its headings. -/
structure Tidy (text : List Char) (headings : List Heading) : Prop where
  closed : EndsLine text
  plain : ∀ line ∈ splitLines text, line = [] ∨ EndsPlain line
  reads : Reads text headings

theorem tidy_nil : Tidy [] [] where
  closed := .inl rfl
  plain := nofun
  reads := ⟨nofun, rfl⟩

theorem tidy_feed : Tidy ['\n'] [] where
  closed := .inr rfl
  plain line member := .inl (by simpa [splitLines] using member)
  reads := reads_feed

theorem tidy_line (feed : '\n' ∉ line) (ending : EndsPlain line)
    (unfenced : fenceAfter none line = none) :
    Tidy (line ++ ['\n']) (heading? 0 line).toList := by
  have cut : splitLines (line ++ ['\n']) = [line] := by
    obtain ⟨last, found, visible⟩ := ending
    refine splitLines_line feed ?_
    rw [found]
    rintro ⟨⟩
    cases visible
  refine ⟨.inr (by simp), ?_, ?_, ?_⟩
  · rw [cut, List.forall_mem_singleton]
    exact .inr ending
  · rwa [cut, List.forall_mem_singleton]
  · rw [cut]
    cases found : heading? 0 line <;> simp [found]

theorem tidy_heading {level : Nat} {title : List Char} (plain : PlainTitle title)
    (least : 1 ≤ level) (most : level ≤ 6) :
    Tidy (List.replicate level '#' ++ ' ' :: title ++ ['\n'])
      [⟨0, UInt8.ofNat level, String.ofList title, false, []⟩] := by
  have feed : '\n' ∉ List.replicate level '#' ++ ' ' :: title := by simp [plain.single]
  have ending : EndsPlain (List.replicate level '#' ++ ' ' :: title) :=
    (plain.endsPlain.append_left [' ']).append_left _
  have unfenced : fenceAfter none (List.replicate level '#' ++ ' ' :: title) = none := by
    obtain ⟨count, rfl⟩ : ∃ count, level = count + 1 := ⟨level - 1, by omega⟩
    exact fenceAfter_hash
  simpa [plain.heading? least most] using tidy_line feed ending unfenced

theorem tidy_item (count : Nat) (feed : '\n' ∉ text) (ending : EndsPlain text) :
    Tidy (List.replicate count ' ' ++ '-' :: text ++ ['\n']) [] := by
  have ordinary : Ordinary (List.replicate count ' ' ++ '-' :: text) :=
    ordinary_of_mark count (by decide) (by decide) (by decide) (by decide)
  have single : '\n' ∉ List.replicate count ' ' ++ '-' :: text := by simp [feed]
  have tail : EndsPlain (List.replicate count ' ' ++ '-' :: text) :=
    (ending.append_left ['-']).append_left _
  simpa [ordinary.2] using tidy_line single tail ordinary.1

theorem Tidy.append (first : Tidy front headings) (second : Tidy back more) :
    Tidy (front ++ back) (headings ++ more) where
  closed := first.closed.append second.closed
  plain := by
    rw [splitLines_append first.closed]
    exact List.forall_mem_append.mpr ⟨first.plain, second.plain⟩
  reads := first.reads.append first.closed second.reads

theorem eq_nil_of_plain (plain : line = [] ∨ EndsPlain line) (blank : Blank line) : line = [] := by
  refine plain.resolve_right ?_
  rintro ⟨c, last, visible⟩
  exact Bool.false_ne_true (visible.symm.trans (blank c (List.mem_of_getLast? last)))

theorem eq_nil_of_plain_append (plain : line ++ extra = [] ∨ EndsPlain (line ++ extra))
    (blank : Blank extra) : extra = [] := by
  rcases plain with empty | ⟨c, last, visible⟩
  · exact (List.append_eq_nil_iff.mp empty).2
  · refine eq_nil_of_plain ?_ blank
    rw [or_iff_not_imp_left]
    intro nonempty
    exact ⟨c, by rwa [List.getLast?_append_of_ne_nil _ nonempty] at last, visible⟩

theorem filterMap_heading?_of_empty (empty : ∀ line ∈ lines, line = []) :
    lines.filterMap (heading? 0) = [] := by
  refine List.filterMap_eq_nil_iff.mpr ?_
  intro line member
  rw [empty line member]
  rfl

theorem Tidy.trimEnd (tidy : Tidy text headings) :
    Reads (dropEndWhile isBlank text ++ ['\n']) headings := by
  obtain ⟨_, plain, ⟨unfenced, found⟩⟩ := tidy
  by_cases visible : dropEndWhile isBlank text = []
  · have blank : Blank text := List.rdropWhile_eq_nil_iff.mp visible
    have none : headings = [] := by
      rw [← found]
      exact filterMap_heading?_of_empty fun line member =>
        eq_nil_of_plain (plain line member) (blank_of_mem_splitLines blank member)
    rw [visible, none]
    exact reads_feed
  · obtain ⟨before, last, extra, behind, cut, whole, blank, blanks⟩ := splitLines_trimEnd visible
    rw [whole, List.forall_mem_append, List.forall_mem_cons] at plain unfenced
    obtain rfl := eq_nil_of_plain_append plain.2.1 blank
    have empty : behind.filterMap (heading? 0) = [] :=
      filterMap_heading?_of_empty fun line member =>
        eq_nil_of_plain (plain.2.2 line member) (blanks line member)
    rw [List.append_nil] at unfenced whole
    constructor
    · rw [cut, List.forall_mem_append]
      exact ⟨unfenced.1, List.forall_mem_singleton.mpr unfenced.2.1⟩
    · rw [cut, ← found, whole, List.filterMap_append, List.filterMap_append, List.filterMap_cons,
        List.filterMap_cons, empty]
      rfl

end DocContract.Outline
