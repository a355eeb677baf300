import DocContract.Blueprint.Block

namespace DocContract.Blueprint

open DocContract.Text

def lineAt? (lines : List (List Char)) : Nat → Option (List Char)
  | 0 => none
  | index + 1 => lines[index]?

/-- The tag that the line with the number opens a block with. -/
def tagAt? (lines : List (List Char)) (number : Nat) : Option (List Char) :=
  (lineAt? lines number).bind openingTag?

/-- The line with the number closes blocks with the tag. -/
def ClosesAt (lines : List (List Char)) (tag : List Char) (number : Nat) : Prop :=
  ∃ line, lineAt? lines number = some line ∧ closes tag line = true

/-- The first line behind the opening one that closes a block with the tag. -/
structure FirstClosing (lines : List (List Char)) (tag : List Char) (start stop : Nat) :
    Prop where
  behind : start < stop
  closes : ClosesAt lines tag stop
  first : ∀ between, start < between → between < stop → ¬ ClosesAt lines tag between

/-- The line opens a block and does not lie inside another one that is closed. -/
def Outer (lines : List (List Char)) (number : Nat) : Prop :=
  (∃ tag, tagAt? lines number = some tag) ∧
    ∀ start < number, Outer lines start → ∀ tag stop, tagAt? lines start = some tag →
      FirstClosing lines tag start stop → stop ≤ number
termination_by number

/-- A block with the tag from its opening line to its closing line. -/
structure IsBlock (lines : List (List Char)) (tag : List Char) (start stop : Nat) : Prop where
  outer : Outer lines start
  opened : tagAt? lines start = some tag
  closed : FirstClosing lines tag start stop

/-- The line lies between the opening and the closing line of a block. -/
def Inside (lines : List (List Char)) (number : Nat) : Prop :=
  ∃ tag start stop, IsBlock lines tag start stop ∧ start < number ∧ number < stop

namespace Block

def start : Block → Nat
  | .closed _ start _ => start
  | .unclosed _ start => start

def stop : Block → Nat
  | .closed _ start body => start + body.length + 1
  | .unclosed _ start => start

end Block

variable {lines rest : List (List Char)} {line tag other : List Char}
variable {number start stop later : Nat}

theorem openingTag?_of_closes (closing : closes tag line = true) : openingTag? line = none := by
  have trimmed : trimChars line = "`@/cpt:".toList ++ tag ++ ['`'] := by
    simpa [closes] using closing
  rw [openingTag?, trimmed]
  rfl

theorem tagAt?_of_closesAt (closing : ClosesAt lines tag number) : tagAt? lines number = none := by
  obtain ⟨line, located, closes⟩ := closing
  rw [tagAt?, located]
  exact openingTag?_of_closes closes

theorem FirstClosing.unique (first : FirstClosing lines tag start stop)
    (second : FirstClosing lines tag start later) : stop = later := by
  rcases Nat.lt_trichotomy stop later with before | same | behind
  · exact absurd first.closes (second.first stop first.behind before)
  · exact same
  · exact absurd second.closes (first.first later second.behind behind)

theorem outer_iff :
    Outer lines number ↔ (∃ tag, tagAt? lines number = some tag) ∧ ¬ Inside lines number := by
  rw [Outer]
  refine and_congr_right fun _ => ⟨?_, ?_⟩
  · rintro free ⟨tag, start, stop, block, behind, before⟩
    exact absurd (free start behind block.outer tag stop block.opened block.closed)
      (Nat.not_le.mpr before)
  · intro outside start behind outer tag stop opened closed
    apply Nat.le_of_not_lt
    intro before
    exact outside ⟨tag, start, stop, ⟨outer, opened, closed⟩, behind, before⟩

/-- A block ends before the next one that does not lie inside it begins. -/
theorem IsBlock.stop_lt (block : IsBlock lines tag start stop) (outer : Outer lines later)
    (behind : start < later) : stop < later := by
  obtain ⟨⟨other, opened⟩, outside⟩ := outer_iff.mp outer
  have least : stop ≤ later := by
    apply Nat.le_of_not_lt
    intro before
    exact outside ⟨tag, start, stop, block, behind, before⟩
  refine Nat.lt_of_le_of_ne least ?_
  rintro rfl
  exact Option.some_ne_none _ (opened.symm.trans (tagAt?_of_closesAt block.closed.closes))

/-- A line lies inside one block at most. -/
theorem IsBlock.start_unique {lastStop : Nat} (first : IsBlock lines tag start stop)
    (second : IsBlock lines other later lastStop) (behind : start < number) (before : number < stop)
    (after : later < number) (ahead : number < lastStop) : start = later := by
  rcases Nat.lt_trichotomy start later with less | same | more
  · have := first.stop_lt second.outer less
    omega
  · exact same
  · have := second.stop_lt first.outer more
    omega

/-- The lines have the block where it says.  One that is not closed has no closing line behind
it. -/
inductive Fits (lines : List (List Char)) : Block → Prop where
  | closed (tag : List Char) (start : Nat) (body : List (List Char))
      (block : IsBlock lines tag start (start + body.length + 1)) :
      Fits lines (.closed tag start body)
  | unclosed (tag : List Char) (start : Nat) (outer : Outer lines start)
      (opened : tagAt? lines start = some tag)
      (endless : ∀ stop, ¬ FirstClosing lines tag start stop) :
      Fits lines (.unclosed tag start)

theorem Fits.outer {block : Block} (fits : Fits lines block) : Outer lines block.start := by
  cases fits with
  | closed _ _ _ block => exact block.outer
  | unclosed _ _ outer _ _ => exact outer

/-- The blocks are those that begin at the line with the number or behind it. -/
structure Cut (lines : List (List Char)) (number : Nat) (found : List Block) : Prop where
  fits : ∀ block ∈ found, Fits lines block
  behind : ∀ block ∈ found, number ≤ block.start
  apart : found.Pairwise fun first second => first.stop < second.start
  complete : ∀ later, number ≤ later → Outer lines later → ∃ block ∈ found, block.start = later

/-- Every block that begins before the line also ends before it. -/
def Clear (lines : List (List Char)) (number : Nat) : Prop :=
  ∀ tag start stop, IsBlock lines tag start stop → start < number → stop < number

theorem Clear.outer (clear : Clear lines number) (opened : tagAt? lines number = some tag) :
    Outer lines number := by
  refine outer_iff.mpr ⟨⟨tag, opened⟩, ?_⟩
  rintro ⟨other, start, stop, block, behind, before⟩
  exact Nat.lt_asymm before (clear other start stop block behind)

theorem Clear.next (clear : Clear lines number)
    (endless : ∀ tag stop, tagAt? lines number = some tag → ¬ FirstClosing lines tag number stop) :
    Clear lines (number + 1) := by
  intro tag start stop block before
  rcases Nat.lt_succ_iff_lt_or_eq.mp before with earlier | rfl
  · exact Nat.lt_succ_of_lt (clear tag start stop block earlier)
  · exact absurd block.closed (endless tag stop block.opened)

theorem Clear.behind (clear : Clear lines number) (block : IsBlock lines tag number stop) :
    Clear lines (stop + 1) := by
  intro other start last inner before
  have bound := block.closed.behind
  rcases Nat.lt_trichotomy start number with earlier | rfl | later
  · have ended := clear other start last inner earlier
    omega
  · obtain rfl : tag = other := Option.some.inj (block.opened.symm.trans inner.opened)
    rw [inner.closed.unique block.closed]
    exact Nat.lt_succ_self _
  · have ended := block.stop_lt inner.outer later
    omega

/-- The rest of the lines starts at the line with the number. -/
def StartsAt (lines : List (List Char)) (number : Nat) (rest : List (List Char)) : Prop :=
  ∀ index, lineAt? lines (number + index) = rest[index]?

theorem startsAt_one (lines : List (List Char)) : StartsAt lines 1 lines := by
  intro index
  rw [Nat.add_comm, lineAt?]

theorem StartsAt.drop (located : StartsAt lines number rest) (count : Nat) :
    StartsAt lines (number + count) (rest.drop count) := by
  intro index
  rw [Nat.add_assoc, located, List.getElem?_drop]

theorem StartsAt.tail (located : StartsAt lines number (line :: rest)) :
    StartsAt lines (number + 1) rest :=
  located.drop 1

theorem StartsAt.head (located : StartsAt lines number (line :: rest)) :
    lineAt? lines number = some line :=
  located 0

theorem StartsAt.closesAt_iff (located : StartsAt lines number rest) {index : Nat} :
    ClosesAt lines tag (number + index) ↔ ∃ line, rest[index]? = some line ∧ closes tag line := by
  rw [ClosesAt, located]

/-- The search for the closing line finds the first one. -/
theorem StartsAt.firstClosing (located : StartsAt lines (number + 1) rest) {index : Nat}
    (found : rest.findIdx? (closes tag) = some index) :
    FirstClosing lines tag number (number + index + 1) := by
  obtain ⟨bound, closing, earlier⟩ := List.findIdx?_eq_some_iff_getElem.mp found
  refine ⟨by omega, ?_, ?_⟩
  · rw [Nat.add_right_comm, located.closesAt_iff]
    exact ⟨rest[index], List.getElem?_eq_getElem bound, closing⟩
  · intro between behind before
    obtain ⟨offset, rfl⟩ := Nat.exists_eq_add_of_le (Nat.succ_le_of_lt behind)
    rw [Nat.succ_eq_add_one, located.closesAt_iff]
    rintro ⟨line, taken, closes⟩
    obtain ⟨_, rfl⟩ := List.getElem?_eq_some_iff.mp taken
    exact earlier offset (by omega) closes

theorem StartsAt.endless (located : StartsAt lines (number + 1) rest)
    (missing : rest.findIdx? (closes tag) = none) (stop : Nat) :
    ¬ FirstClosing lines tag number stop := by
  intro closed
  obtain ⟨offset, rfl⟩ := Nat.exists_eq_add_of_le (Nat.succ_le_of_lt closed.behind)
  have closing := closed.closes
  rw [Nat.succ_eq_add_one, located.closesAt_iff] at closing
  obtain ⟨line, taken, closes⟩ := closing
  have refused := List.findIdx?_eq_none_iff.mp missing line (List.mem_of_getElem? taken)
  rw [closes] at refused
  cases refused

theorem Cut.plain {found : List Block} (cut : Cut lines (number + 1) found)
    (plain : ¬ Outer lines number) : Cut lines number found where
  fits := cut.fits
  behind block member := Nat.le_of_succ_le (cut.behind block member)
  apart := cut.apart
  complete later least outer := by
    rcases Nat.lt_or_eq_of_le least with more | rfl
    · exact cut.complete later more outer
    · exact absurd outer plain

/-- A block in front of those behind its end, if no block begins inside it. -/
theorem Cut.cons (block : Block) {found : List Block} (cut : Cut lines (block.stop + 1) found)
    (fits : Fits lines block) (bound : block.start ≤ block.stop)
    (covered : ∀ later, block.start < later → later ≤ block.stop → ¬ Outer lines later) :
    Cut lines block.start (block :: found) where
  fits := List.forall_mem_cons.mpr ⟨fits, cut.fits⟩
  behind := by
    refine List.forall_mem_cons.mpr ⟨Nat.le_refl _, fun other member => ?_⟩
    have := cut.behind other member
    omega
  apart := List.pairwise_cons.mpr ⟨cut.behind, cut.apart⟩
  complete later least outer := by
    rcases Nat.lt_or_eq_of_le least with more | rfl
    · by_cases inside : later ≤ block.stop
      · exact absurd outer (covered later more inside)
      · obtain ⟨other, member, same⟩ := cut.complete later (by omega) outer
        exact ⟨other, List.mem_cons_of_mem _ member, same⟩
    · exact ⟨block, List.mem_cons_self, rfl⟩

/-- Cutting the lines finds every block that begins in them, once and in their order. -/
theorem cut_blocks (located : StartsAt lines number rest) (clear : Clear lines number) :
    Cut lines number (blocks number rest) := by
  induction number, rest using blocks.induct with
  | case1 number =>
    rw [blocks]
    refine ⟨nofun, nofun, .nil, ?_⟩
    intro later least outer
    obtain ⟨⟨tag, opened⟩, _⟩ := outer_iff.mp outer
    obtain ⟨offset, rfl⟩ := Nat.exists_eq_add_of_le least
    simp [tagAt?, located offset] at opened
  | case2 number line rest plain ih =>
    have untagged : tagAt? lines number = none := by simp [tagAt?, located.head, plain]
    have next : Clear lines (number + 1) := clear.next (by simp [untagged])
    rw [blocks, plain]
    refine (ih located.tail next).plain ?_
    intro outer
    obtain ⟨⟨tag, opened⟩, _⟩ := outer_iff.mp outer
    exact Option.some_ne_none _ (opened.symm.trans untagged)
  | case3 number line rest tag opening missing ih =>
    have opened : tagAt? lines number = some tag := by simp [tagAt?, located.head, opening]
    have endless := located.tail.endless missing
    have next : Clear lines (number + 1) := by
      apply clear.next
      intro other stop tagged
      obtain rfl : tag = other := Option.some.inj (opened.symm.trans tagged)
      exact endless stop
    simp only [blocks, opening, missing]
    exact Cut.cons (.unclosed tag number) (ih located.tail next)
      (.unclosed tag number (clear.outer opened) opened endless) (Nat.le_refl _)
      fun later more least => absurd more (Nat.not_lt.mpr least)
  | case4 number line rest tag opening index found ih =>
    have opened : tagAt? lines number = some tag := by simp [tagAt?, located.head, opening]
    have closed := located.tail.firstClosing found
    have block : IsBlock lines tag number (number + index + 1) :=
      ⟨clear.outer opened, opened, closed⟩
    have size : (rest.take index).length = index := by
      obtain ⟨bound, _⟩ := List.findIdx?_eq_some_iff_getElem.mp found
      rw [List.length_take]
      omega
    have behind : StartsAt lines (number + index + 2) (rest.drop (index + 1)) := by
      have dropped := located.tail.drop (index + 1)
      rwa [show number + 1 + (index + 1) = number + index + 2 by omega] at dropped
    have cut := ih behind (clear.behind block)
    simp only [blocks, opening, found]
    refine Cut.cons (.closed tag number (rest.take index)) ?_
      (.closed tag number (rest.take index) ?_) ?_ ?_
    · rwa [Block.stop, size]
    · rwa [size]
    · rw [Block.start, Block.stop]
      omega
    · intro later more least outer
      rw [Block.stop, size] at least
      exact Nat.not_lt.mpr least (block.stop_lt outer more)

end DocContract.Blueprint
