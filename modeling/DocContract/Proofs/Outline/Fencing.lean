import DocContract.Identifier.Mention
import DocContract.Proofs.Outline.Scanning

namespace DocContract.Outline

open DocContract.Text DocContract.Identifier

/-- The line opens the fence: three or more backticks or tildes behind at most three spaces, and
then anything but, behind backticks, another backtick. -/
def Opens (fence : OpenFence) (line : List Char) : Prop :=
  ∃ indent info,
    line = List.replicate indent ' ' ++ (List.replicate fence.width fence.mark ++ info) ∧
      indent ≤ 3 ∧ (fence.mark = '`' ∨ fence.mark = '~') ∧ 3 ≤ fence.width ∧
      info.head? ≠ some fence.mark ∧ (fence.mark = '`' → '`' ∉ info)

/-- The line closes the fence: at least as many of its marks behind at most three spaces, and
nothing else. -/
def Closes (fence : OpenFence) (line : List Char) : Prop :=
  ∃ indent width blanks,
    line = List.replicate indent ' ' ++ (List.replicate width fence.mark ++ blanks) ∧
      indent ≤ 3 ∧ fence.width ≤ width ∧ Blank blanks

/-- A block of fenced code: a line that opens it, lines that do not close it, and one that does. -/
structure FencedBlock where
  fence : OpenFence
  opener : List Char
  inner : List (List Char)
  closer : List Char
  opens : Opens fence opener
  inside : ∀ line ∈ inner, ¬ Closes fence line
  closes : Closes fence closer

def FencedBlock.lines (block : FencedBlock) : List (List Char) :=
  block.opener :: (block.inner ++ [block.closer])

/-- Lines at whose end no fence is open. -/
inductive Balanced : List (List Char) → Prop where
  | nil : Balanced []
  | line {line : List Char} {rest : List (List Char)} (plain : ∀ fence, ¬ Opens fence line)
      (balanced : Balanced rest) : Balanced (line :: rest)
  | block (block : FencedBlock) {rest : List (List Char)} (balanced : Balanced rest) :
      Balanced (block.lines ++ rest)

/-- The fence that is open after the lines. -/
def openAfter (fence : Option OpenFence) (lines : List (List Char)) : Option OpenFence :=
  lines.foldl fenceAfter fence

variable {fence : OpenFence} {line opener : List Char} {lines front back : List (List Char)}
variable {number count : Nat}

theorem opens_iff (found : FenceLine) :
    found.opens = true ↔ (found.mark = '`' → '`' ∉ found.info) := by
  simp [FenceLine.opens, ← not_and_or]

theorem fenceAfter_none_eq_some_iff : fenceAfter none line = some fence ↔ Opens fence line := by
  constructor
  · intro opened
    cases found : fenceLine? line with
    | none => simp [fenceAfter, found] at opened
    | some mark =>
      simp only [fenceAfter, found, Option.ite_none_right_eq_some, Option.some.injEq] at opened
      obtain ⟨opens, rfl⟩ := opened
      obtain ⟨indent, whole, near, kind, wide, next⟩ := fenceLine?_eq_some_iff.mp found
      exact ⟨indent, mark.info, whole, near, kind, wide, next, (opens_iff mark).mp opens⟩
  · rintro ⟨indent, info, whole, near, kind, wide, next, unmarked⟩
    have found : fenceLine? line = some ⟨fence.mark, fence.width, info⟩ :=
      fenceLine?_eq_some_iff.mpr ⟨indent, whole, near, kind, wide, next⟩
    simp only [fenceAfter, found]
    exact if_pos ((opens_iff _).mpr unmarked)

theorem closes_iff (opened : Opens fence opener) :
    Closes fence line ↔ ∃ mark, fenceLine? line = some mark ∧ fence.isClosedBy mark = true := by
  obtain ⟨_, _, _, _, kind, least, _, _⟩ := opened
  constructor
  · rintro ⟨indent, width, blanks, whole, near, wide, blank⟩
    have next : blanks.head? ≠ some fence.mark := by
      intro first
      have marked := blank _ (List.mem_of_head? first)
      rcases kind with kind | kind <;> rw [kind] at marked <;> cases marked
    refine ⟨⟨fence.mark, width, blanks⟩, fenceLine?_eq_some_iff.mpr
      ⟨indent, whole, near, kind, Nat.le_trans least wide, next⟩, ?_⟩
    simpa [OpenFence.isClosedBy, wide, Blank] using blank
  · rintro ⟨mark, found, closing⟩
    obtain ⟨indent, whole, near, _, _, _⟩ := fenceLine?_eq_some_iff.mp found
    simp only [OpenFence.isClosedBy, Bool.and_eq_true, beq_iff_eq, decide_eq_true_eq,
      List.all_eq_true] at closing
    obtain ⟨⟨same, wide⟩, blank⟩ := closing
    exact ⟨indent, mark.width, mark.info, same ▸ whole, near, wide, blank⟩

theorem fenceAfter_some (opened : Opens fence opener) (line : List Char) :
    (Closes fence line ∧ fenceAfter (some fence) line = none) ∨
      (¬ Closes fence line ∧ fenceAfter (some fence) line = some fence) := by
  rw [closes_iff opened]
  cases found : fenceLine? line with
  | none => simp [fenceAfter, found]
  | some mark =>
    by_cases closing : fence.isClosedBy mark = true <;> simp [fenceAfter, found, closing]

theorem fenceAfter_some_eq_none_iff (opened : Opens fence opener) :
    fenceAfter (some fence) line = none ↔ Closes fence line := by
  rcases fenceAfter_some opened line with ⟨closes, after⟩ | ⟨inside, after⟩
  · exact iff_of_true after closes
  · exact iff_of_false (by simp [after]) inside

theorem openAfter_nil (fence : Option OpenFence) : openAfter fence [] = fence :=
  rfl

theorem openAfter_cons (fence : Option OpenFence) (line : List Char) (rest : List (List Char)) :
    openAfter fence (line :: rest) = openAfter (fenceAfter fence line) rest :=
  rfl

theorem openAfter_append (fence : Option OpenFence) (front back : List (List Char)) :
    openAfter fence (front ++ back) = openAfter (openAfter fence front) back :=
  List.foldl_append

theorem openAfter_inner (opened : Opens fence opener)
    (inside : ∀ line ∈ lines, ¬ Closes fence line) :
    openAfter (some fence) lines = some fence := by
  induction lines with
  | nil => rfl
  | cons line rest ih =>
    obtain ⟨here, behind⟩ := List.forall_mem_cons.mp inside
    obtain ⟨_, still⟩ := (fenceAfter_some opened line).resolve_left fun closed => here closed.1
    rw [openAfter_cons, still]
    exact ih behind

theorem FencedBlock.openAfter_lines (block : FencedBlock) : openAfter none block.lines = none := by
  obtain ⟨_, closed⟩ := (fenceAfter_some block.opens block.closer).resolve_right
    fun still => still.1 block.closes
  rw [FencedBlock.lines, openAfter_cons, fenceAfter_none_eq_some_iff.mpr block.opens,
    openAfter_append, openAfter_inner block.opens block.inside, openAfter_cons, closed]
  rfl

/-- Where an open fence is closed at the end, the lines up to the first closing one end it. -/
theorem exists_closer (opened : Opens fence opener) (closed : openAfter (some fence) lines = none) :
    ∃ inner closer rest, lines = inner ++ closer :: rest ∧ (∀ line ∈ inner, ¬ Closes fence line) ∧
      Closes fence closer ∧ openAfter none rest = none := by
  induction lines with
  | nil => cases closed
  | cons line rest ih =>
    rw [openAfter_cons] at closed
    rcases fenceAfter_some opened line with ⟨closes, after⟩ | ⟨inside, after⟩
    · rw [after] at closed
      exact ⟨[], line, rest, rfl, List.forall_mem_nil _, closes, closed⟩
    · rw [after] at closed
      obtain ⟨inner, closer, behind, rfl, held, closes, ends⟩ := ih closed
      exact ⟨line :: inner, closer, behind, rfl, List.forall_mem_cons.mpr ⟨inside, held⟩, closes,
        ends⟩

theorem openAfter_eq_none_iff : openAfter none lines = none ↔ Balanced lines := by
  constructor
  · intro closed
    induction size : lines.length using Nat.strongRecOn generalizing lines with
    | ind length ih =>
      have shorter {rest : List (List Char)} (less : rest.length < length)
          (ends : openAfter none rest = none) : Balanced rest :=
        ih rest.length less ends rfl
      cases lines with
      | nil => exact .nil
      | cons line rest =>
        rw [openAfter_cons] at closed
        rw [List.length_cons] at size
        cases after : fenceAfter none line with
        | none =>
          rw [after] at closed
          refine .line (fun fence opens => ?_) (shorter (by omega) closed)
          exact Option.some_ne_none _ ((fenceAfter_none_eq_some_iff.mpr opens).symm.trans after)
        | some fence =>
          rw [after] at closed
          have opens := fenceAfter_none_eq_some_iff.mp after
          obtain ⟨inner, closer, behind, rfl, inside, closes, ends⟩ := exists_closer opens closed
          rw [List.length_append, List.length_cons] at size
          have whole := Balanced.block ⟨fence, line, inner, closer, opens, inside, closes⟩
            (shorter (by omega) ends)
          simpa [FencedBlock.lines] using whole
  · intro balanced
    induction balanced with
    | nil => rfl
    | line plain _ ih =>
      have after : fenceAfter none _ = none :=
        Option.eq_none_iff_forall_ne_some.mpr fun fence opens =>
          plain fence (fenceAfter_none_eq_some_iff.mp opens)
      rw [openAfter_cons, after]
      exact ih
    | block block _ ih => rw [openAfter_append, block.openAfter_lines, ih]

instance (lines : List (List Char)) : Decidable (Balanced lines) :=
  decidable_of_iff _ openAfter_eq_none_iff

/-- No fence is open in front of the line at the index, nor behind it. -/
def Outside (lines : List (List Char)) (index : Nat) : Prop :=
  Balanced (lines.take index) ∧ Balanced (lines.take (index + 1))

instance (lines : List (List Char)) (index : Nat) : Decidable (Outside lines index) :=
  inferInstanceAs (Decidable (_ ∧ _))

theorem outsideFences_append (fence : Option OpenFence) (number : Nat)
    (front back : List (List Char)) :
    outsideFences fence number (front ++ back) =
      outsideFences fence number front ++
        outsideFences (openAfter fence front) (number + front.length) back := by
  induction front generalizing fence number with
  | nil => rfl
  | cons line rest ih =>
    have next : number + 1 + rest.length = number + (line :: rest).length := by
      rw [List.length_cons]
      omega
    rw [List.cons_append, outsideFences, outsideFences, ih, next]
    split <;> rfl

theorem outsideFences_moved (fence : Option OpenFence) (number count : Nat)
    (lines : List (List Char)) :
    outsideFences fence (number + count) lines =
      (outsideFences fence number lines).map fun (place, line) => (place + count, line) := by
  induction lines generalizing fence number with
  | nil => rfl
  | cons line rest ih =>
    have behind := ih (fenceAfter fence line) (number + 1)
    rw [Nat.add_right_comm] at behind
    rw [outsideFences, outsideFences, behind]
    split <;> rfl

theorem filter_outsideFences {index : Nat} (stands : lines[index]? = some line)
    (fence : Option OpenFence) (number : Nat) :
    (outsideFences fence number lines).filter (·.1 = number + index) =
      if openAfter fence (lines.take index) = none ∧ openAfter fence (lines.take (index + 1)) = none
      then [(number + index, line)] else [] := by
  induction lines generalizing fence number index with
  | nil => cases stands
  | cons first rest ih =>
    cases index with
    | zero =>
      obtain rfl : first = line := Option.some.inj stands
      have later : (outsideFences (fenceAfter fence first) (number + 1) rest).filter
          (·.1 = number) = [] := by
        refine List.filter_eq_nil_iff.mpr fun entry member => ?_
        have least := le_of_mem_outsideFences member
        simp only [decide_eq_true_eq]
        omega
      rw [outsideFences, List.take_zero, List.take_succ_cons, List.take_zero, openAfter_cons,
        openAfter_nil, openAfter_nil, Nat.add_zero]
      simp only [Bool.and_eq_true, Option.isNone_iff_eq_none]
      split
      · rw [List.filter_cons_of_pos (by simp), later]
      · exact later
    | succ index =>
      have behind := ih stands (fenceAfter fence first) (number + 1)
      rw [show number + 1 + index = number + (index + 1) by omega] at behind
      rw [outsideFences, List.take_succ_cons, List.take_succ_cons, openAfter_cons, openAfter_cons,
        ← behind]
      split
      · rw [List.filter_cons_of_neg (by simp)]
      · rfl

/-- A line is read if it lies outside fences. -/
theorem filter_outsideFences_none {index : Nat} (stands : lines[index]? = some line)
    (number : Nat) :
    (outsideFences none number lines).filter (·.1 = number + index) =
      if Outside lines index then [(number + index, line)] else [] := by
  rw [filter_outsideFences stands]
  exact if_congr (and_congr openAfter_eq_none_iff openAfter_eq_none_iff) rfl rfl

theorem outsideFences_inner (opened : Opens fence opener)
    (inside : ∀ line ∈ lines, ¬ Closes fence line) (number : Nat) :
    outsideFences (some fence) number lines = [] := by
  induction lines generalizing number with
  | nil => rfl
  | cons line rest ih =>
    obtain ⟨here, behind⟩ := List.forall_mem_cons.mp inside
    obtain ⟨_, still⟩ := (fenceAfter_some opened line).resolve_left fun closed => here closed.1
    rw [outsideFences, still]
    exact ih behind (number + 1)

theorem FencedBlock.outsideFences_lines (block : FencedBlock) (number : Nat) :
    outsideFences none number block.lines = [] := by
  rw [FencedBlock.lines, outsideFences, fenceAfter_none_eq_some_iff.mpr block.opens]
  simp only [Option.isNone_some, Bool.and_false, Bool.false_eq_true, ↓reduceIte]
  rw [outsideFences_append, outsideFences_inner block.opens block.inside,
    openAfter_inner block.opens block.inside]
  rfl

/-- The lines around a block of fenced code are read as they are without it, but for the numbers of
those behind it. -/
theorem outsideFences_block (block : FencedBlock) (closed : Balanced front)
    (back : List (List Char)) :
    outsideFences none 1 (front ++ block.lines ++ back) =
      outsideFences none 1 front ++ (outsideFences none 1 back).map fun (place, line) =>
        (place + (front.length + block.lines.length), line) := by
  have ends := openAfter_eq_none_iff.mpr closed
  rw [outsideFences_append, outsideFences_append, openAfter_append, ends,
    block.outsideFences_lines, block.openAfter_lines, List.append_nil, List.length_append,
    outsideFences_moved]

def Heading.moved (count : Nat) (heading : Heading) : Heading :=
  { heading with line := heading.line + count }

theorem heading?_moved (number count : Nat) (line : List Char) :
    heading? (number + count) line = (heading? number line).map (Heading.moved count) := by
  simp only [heading?]
  cases headingLine? line with
  | none => rfl
  | some found =>
    obtain ⟨level, title⟩ := found
    cases title <;> rfl

end DocContract.Outline

namespace DocContract.Identifier

open DocContract.Outline

def Mention.moved (count : Nat) (mention : Mention) : Mention :=
  { mention with line := mention.line + count }

theorem mentionsOfLine_moved (number count : Nat) (line : List Char) :
    mentionsOfLine (number + count) line =
      (mentionsOfLine number line).map (Mention.moved count) := by
  simp [mentionsOfLine, Mention.moved, Function.comp_def]

end DocContract.Identifier

namespace DocContract.Outline

open DocContract.Text DocContract.Identifier

/-- Around a block of fenced code, with no fence open in front of it, the headings and identifiers
of a text are those of the lines in front and those of the lines behind, at their place. -/
theorem scan_around_block (front back whole : String) (block : FencedBlock)
    (closed : Balanced (splitLines front.toList))
    (cut : splitLines whole.toList =
      splitLines front.toList ++ block.lines ++ splitLines back.toList) :
    let count := (splitLines front.toList).length + block.lines.length
    scanHeadings whole = scanHeadings front ++ (scanHeadings back).map (Heading.moved count) ∧
      scanIdentifiers whole =
        scanIdentifiers front ++ (scanIdentifiers back).map (Mention.moved count) := by
  intro count
  have around := outsideFences_block block closed (splitLines back.toList)
  constructor
  · simp only [scanHeadings, headingsOfLines, cut, around, List.filterMap_append,
      List.filterMap_map, List.map_filterMap, Function.comp_def, heading?_moved]
    rfl
  · simp only [scanIdentifiers, mentionsOfLines, cut, around, List.flatMap_append,
      List.flatMap_map, List.map_flatMap, mentionsOfLine_moved]
    rfl

theorem opens_markdown : Opens ⟨'`', 4⟩ "  ````markdown".toList :=
  fenceAfter_none_eq_some_iff.mp (by decide)

/-- Fenced code that looks like a heading, a definition and fences of other kinds. -/
def draftBlock : FencedBlock where
  fence := ⟨'`', 4⟩
  opener := "  ````markdown".toList
  inner := ["## Draft", "```", "- [x] **ID**: `cpt-app-fr-draft`", "~~~~", "```` text"].map
    String.toList
  closer := "````` ".toList
  opens := opens_markdown
  inside line member closes := by
    have unclosed : ∀ line ∈ ["## Draft", "```", "- [x] **ID**: `cpt-app-fr-draft`", "~~~~",
        "```` text"].map String.toList, fenceAfter (some ⟨'`', 4⟩) line ≠ none := by
      decide
    exact unclosed line member ((fenceAfter_some_eq_none_iff opens_markdown).mpr closes)
  closes := (fenceAfter_some_eq_none_iff opens_markdown).mp (by decide)

def linesInFront : String :=
  "## Scope\n~~~\n# Hidden\n~~~\n"

def lineBehind : String :=
  "## 2. As cpt-app-fr-login wants"

theorem scan_around_draftBlock :
    let whole :=
      linesInFront ++ joinLines (draftBlock.lines.map String.ofList) ++ "\n" ++ lineBehind
    Balanced (splitLines linesInFront.toList) ∧
      splitLines whole.toList =
        splitLines linesInFront.toList ++ draftBlock.lines ++ splitLines lineBehind.toList ∧
      scanHeadings whole =
        scanHeadings linesInFront ++ (scanHeadings lineBehind).map (Heading.moved 11) ∧
      scanIdentifiers whole =
        scanIdentifiers linesInFront ++ (scanIdentifiers lineBehind).map (Mention.moved 11) ∧
      (scanHeadings whole).map (·.line) = [1, 12] ∧
      (scanIdentifiers whole).map (·.line) = [12] := by
  intro whole
  have closed : Balanced (splitLines linesInFront.toList) :=
    openAfter_eq_none_iff.mp (by decide)
  have cut : splitLines whole.toList =
      splitLines linesInFront.toList ++ draftBlock.lines ++ splitLines lineBehind.toList := by
    decide +kernel
  obtain ⟨headings, mentions⟩ :=
    scan_around_block linesInFront lineBehind whole draftBlock closed cut
  refine ⟨closed, cut, headings, mentions, ?_, ?_⟩
  · rw [headings]
    decide +kernel
  · rw [mentions]
    decide +kernel

end DocContract.Outline
