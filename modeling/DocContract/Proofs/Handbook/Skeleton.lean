import DocContract.Handbook.Skeleton
import DocContract.Proofs.Outline.Scanning
import DocContract.Proofs.Text.Slug

namespace DocContract.Handbook

open DocContract.Blueprint DocContract.Outline DocContract.Text

variable {selection : Selection} {markers : List Marker} {titles : List Title} {title : Title}
variable {due : Bool} {contents : String}

/-- The heading that the title is read as, but for the number of its line. -/
def Title.heading (title : Title) : Heading where
  line := 0
  level := title.level
  title := title.text
  numbered := false
  numberParts := []

def contentsTitle : Title where
  level := 2
  text := "Table of Contents"

/-- A title that is read as it is written. -/
structure Title.Readable (title : Title) : Prop where
  least : 1 ≤ title.level
  most : title.level ≤ 6
  plain : PlainTitle title.text.toList

/-- The titles are read as they are written, and the lines of all other texts are ordinary. -/
structure Selection.Readable (selection : Selection) (markers : List Marker) : Prop where
  titles : ∀ title ∈ selection.titles markers, title.Readable
  bodies : ∀ marker ∈ markers, ∀ text ∈ selection.body marker,
    ∀ line ∈ splitLines text.toList, Ordinary line

theorem Title.Readable.tidy (readable : title.Readable) :
    Tidy title.render.toList [title.heading] := by
  obtain ⟨least, most, plain⟩ := readable
  have read := tidy_heading plain (UInt8.le_iff_toNat_le.mp least) (UInt8.le_iff_toNat_le.mp most)
  rw [UInt8.ofNat_toNat, String.ofList_toList] at read
  have whole : title.render.toList =
      List.replicate title.level.toNat '#' ++ ' ' :: title.text.toList ++ ['\n'] := by
    simp [Title.render, line, hashes]
  exact whole ▸ read

theorem tidy_contentsEntry (feed : '\n' ∉ title.text.toList) :
    Tidy (contentsEntry title).toList [] := by
  have single : '\n' ∉ " [".toList ++ title.text.toList ++ "](#".toList ++
      (anchor title.text).toList ++ [')'] := by
    simp [feed, feed_notMem_anchor feed]
  have closing : EndsPlain [')'] := ⟨')', rfl, rfl⟩
  have item := tidy_item (2 * (title.level.toNat - 2)) single (closing.append_left _)
  simpa [contentsEntry, line] using item

theorem readable_contentsTitle : contentsTitle.Readable where
  least := by decide
  most := by decide
  plain := .of_ends (by decide) (by decide +kernel) (by decide) (by decide +kernel) (by decide)

theorem tidy_renderContents (feed : ∀ title ∈ titles, '\n' ∉ title.text.toList) :
    Tidy (renderContents titles).toList [contentsTitle.heading] := by
  have entries : ∀ titles : List Title, (∀ title ∈ titles, '\n' ∉ title.text.toList) →
      Tidy (String.join (titles.map contentsEntry)).toList [] := by
    intro titles feed
    induction titles with
    | nil => simpa using tidy_nil
    | cons title rest ih =>
      obtain ⟨first, later⟩ := List.forall_mem_cons.mp feed
      rw [List.map_cons, String.join_cons, String.toList_append]
      exact (tidy_contentsEntry first).append (ih later)
  have below := entries (titles.filter fun title => 2 ≤ title.level) fun title member =>
    feed title (List.mem_of_mem_filter member)
  have whole : (renderContents titles).toList = contentsTitle.render.toList ++ ['\n'] ++
      (String.join ((titles.filter fun title => 2 ≤ title.level).map contentsEntry)).toList := by
    simp [renderContents, Title.render, line, contentsTitle, hashes]
  rw [whole]
  exact (readable_contentsTitle.tidy.append tidy_feed).append below

/-- The headings that the part is read as where it stands in a skeleton. -/
def PartReads (part : String) (headings : List Heading) : Prop :=
  Reads (dropEndWhile isBlank part.toList ++ ['\n']) headings

/-- The parts with empty lines between them have the headings of all parts. -/
theorem reads_parts {parts : List String} {found : List (List Heading)}
    (read : List.Forall₂ PartReads parts found) :
    Reads ("\n".intercalate (parts.map fun part => line (trimEnd part))).toList found.flatten := by
  have block (part : String) :
      (line (trimEnd part)).toList = dropEndWhile isBlank part.toList ++ ['\n'] := by
    simp [line, trimEnd]
  induction read with
  | nil => exact tidy_nil.reads
  | @cons part headings parts found first later ih =>
    have ended : EndsLine (dropEndWhile isBlank part.toList ++ ['\n']) := .inr (by simp)
    have apart : Reads (dropEndWhile isBlank part.toList ++ ['\n'] ++ ['\n']) headings := by
      simpa using first.append ended reads_feed
    rw [List.map_cons, List.flatten_cons]
    cases parts with
    | nil =>
      cases later
      rw [List.map_nil, String.intercalate_singleton, block, List.flatten_nil, List.append_nil]
      exact first
    | cons next more =>
      rw [List.map_cons] at ih ⊢
      rw [String.intercalate_cons_cons, String.toList_append, String.toList_append, block]
      exact apart.append (.inr (by simp)) ih

/-- The headings of titles.  A table of contents may be due behind the first one of level one. -/
def withContents (due : Bool) : List Title → List Heading
  | [] => []
  | title :: rest =>
    if due && title.level == 1 then
      title.heading :: contentsTitle.heading :: withContents false rest
    else title.heading :: withContents due rest

theorem Selection.Readable.tail {marker : Marker}
    (readable : selection.Readable (marker :: markers)) : selection.Readable markers where
  titles title member := by
    obtain ⟨titled, inside, found⟩ := List.mem_filterMap.mp member
    exact readable.titles title
      (List.mem_filterMap.mpr ⟨titled, List.mem_cons_of_mem _ inside, found⟩)
  bodies titled member := readable.bodies titled (List.mem_cons_of_mem _ member)

/-- A title that opens the document: the table of contents stands behind it. -/
theorem Title.Readable.partReads_opening (readable : title.Readable)
    (contentsRead : Tidy contents.toList [contentsTitle.heading]) :
    PartReads (title.render ++ "\n" ++ contents) [title.heading, contentsTitle.heading] := by
  rw [PartReads, String.toList_append, String.toList_append]
  exact ((readable.tidy.append tidy_feed).append contentsRead).trimEnd

section

variable {marker : Marker}

theorem titles_cons_of_title (titled : selection.titleOf marker = some title) :
    selection.titles (marker :: markers) = title :: selection.titles markers :=
  List.filterMap_cons_some titled

theorem titles_cons_of_none (untitled : selection.titleOf marker = none) :
    selection.titles (marker :: markers) = selection.titles markers :=
  List.filterMap_cons_none untitled

theorem parts_of_title (titled : selection.titleOf marker = some title) :
    selection.parts contents due (marker :: markers) =
      if due && title.level == 1 then
        (title.render ++ "\n" ++ contents) :: selection.parts contents false markers
      else title.render :: selection.parts contents due markers := by
  rw [Selection.parts]
  split
  · simp only [titled]
  · next other =>
    rw [Selection.titleOf] at titled
    split at titled
    · next declaration same => exact absurd same (other declaration)
    · cases titled

variable (markers due contents) in
/-- A marker without a title has its text as a part, unless it is a heading. -/
theorem parts_of_none (untitled : selection.titleOf marker = none) :
    ∃ own : Option String, (∀ text ∈ own, text ∈ selection.body marker) ∧
      selection.parts contents due (marker :: markers) =
        own.toList ++ selection.parts contents due markers := by
  rw [Selection.parts]
  split
  · simp only [untitled]
    exact ⟨none, nofun, rfl⟩
  · exact ⟨selection.body marker, fun _ member => member, rfl⟩

end

/-- The parts of a skeleton are read as its titles with the table of contents where it is due. -/
theorem forall₂_parts (readable : selection.Readable markers)
    (contentsRead : Tidy contents.toList [contentsTitle.heading]) (due : Bool) :
    ∃ found, List.Forall₂ PartReads (selection.parts contents due markers) found ∧
      found.flatten = withContents due (selection.titles markers) := by
  induction markers generalizing due with
  | nil => exact ⟨[], .nil, rfl⟩
  | cons marker rest ih =>
    cases titled : selection.titleOf marker with
    | none =>
      obtain ⟨own, inside, parts⟩ := parts_of_none rest due contents titled
      obtain ⟨found, read, whole⟩ := ih readable.tail due
      rw [parts, titles_cons_of_none titled]
      cases own with
      | none => exact ⟨found, read, whole⟩
      | some text =>
        have ordinary := readable.bodies marker List.mem_cons_self text (inside text rfl)
        exact ⟨[] :: found, .cons (reads_trimEnd_of_ordinary ordinary) read, whole⟩
    | some title =>
      have own : title.Readable := readable.titles title (by simp [titles_cons_of_title titled])
      rw [parts_of_title titled, titles_cons_of_title titled, withContents]
      split
      · obtain ⟨found, read, whole⟩ := ih readable.tail false
        exact ⟨[title.heading, contentsTitle.heading] :: found,
          .cons (own.partReads_opening contentsRead) read, by rw [List.flatten_cons, whole]; rfl⟩
      · obtain ⟨found, read, whole⟩ := ih readable.tail due
        exact ⟨[title.heading] :: found, .cons own.tidy.trimEnd read,
          by rw [List.flatten_cons, whole]; rfl⟩

/-- The headings of a skeleton with these titles, with or without a table of contents. -/
def skeletonHeadings (toc : Bool) (titles : List Title) : List Heading :=
  if toc && !titles.isEmpty && !(titles.any fun title => title.level == 1) then
    contentsTitle.heading :: withContents toc titles
  else withContents toc titles

/-- What a skeleton is read as: its titles, with the table of contents in its place. -/
theorem reads_renderSkeleton {blueprint : Blueprint}
    (readable : selection.Readable blueprint.markers) :
    Reads (renderSkeleton selection blueprint).toList
      (skeletonHeadings blueprint.header.toc (selection.titles blueprint.markers)) := by
  have contentsRead : Tidy (renderContents (selection.titles blueprint.markers)).toList
      [contentsTitle.heading] :=
    tidy_renderContents fun title member => (readable.titles title member).plain.single
  obtain ⟨found, read, whole⟩ := forall₂_parts readable contentsRead blueprint.header.toc
  have body := reads_parts read
  rw [whole] at body
  rw [skeletonHeadings, renderSkeleton]
  split
  · have front := contentsRead.append tidy_feed
    rw [String.toList_append, String.toList_append]
    exact front.reads.append front.closed body
  · exact body

theorem withContents_of_ne_one (deeper : due = true → ∀ title ∈ titles, title.level ≠ 1) :
    withContents due titles = titles.map Title.heading := by
  induction titles with
  | nil => rfl
  | cons title rest ih =>
    have opening : ¬ (due && title.level == 1) = true := by
      simp only [Bool.and_eq_true, beq_iff_eq, not_and]
      exact fun wanted => deeper wanted title List.mem_cons_self
    rw [withContents, if_neg opening, List.map_cons,
      ih fun wanted other member => deeper wanted other (List.mem_cons_of_mem _ member)]

theorem exists_split_withContents (due : Bool) (titles : List Title) :
    ∃ front middle back, titles = front ++ back ∧
      withContents due titles =
        front.map Title.heading ++ middle ++ back.map Title.heading ∧
      (∀ heading ∈ middle, due = true ∧ heading = contentsTitle.heading ∧
        ∃ last ∈ front.getLast?, last.level = 1) := by
  induction titles with
  | nil => exact ⟨[], [], [], rfl, rfl, nofun⟩
  | cons title rest ih =>
    rw [withContents]
    split
    · next opening =>
      simp only [Bool.and_eq_true, beq_iff_eq] at opening
      have done : withContents false rest = rest.map Title.heading := withContents_of_ne_one nofun
      refine ⟨[title], [contentsTitle.heading], rest, rfl, by rw [done]; rfl, ?_⟩
      intro heading member
      exact ⟨opening.1, List.mem_singleton.mp member, title, rfl, opening.2⟩
    · obtain ⟨front, middle, back, rfl, whole, placed⟩ := ih
      refine ⟨title :: front, middle, back, rfl, by rw [whole]; rfl, ?_⟩
      intro heading member
      obtain ⟨wanted, same, last, found, level⟩ := placed heading member
      exact ⟨wanted, same, last, by simp [List.getLast?_cons, Option.mem_def.mp found], level⟩

/-- The headings of a skeleton are its titles and a table of contents, which stands in front of them
all or behind one of level one. -/
theorem exists_split_skeletonHeadings (toc : Bool) (titles : List Title) :
    ∃ front middle back, titles = front ++ back ∧
      skeletonHeadings toc titles =
        front.map Title.heading ++ middle ++ back.map Title.heading ∧
      (∀ heading ∈ middle, toc = true ∧ heading = contentsTitle.heading) ∧
      ∀ last ∈ front.getLast?, ∀ heading ∈ middle, last.level = 1 := by
  rw [skeletonHeadings]
  split
  · next opening =>
    simp only [Bool.and_eq_true, Bool.not_eq_true', List.any_eq_false, beq_iff_eq] at opening
    refine ⟨[], [contentsTitle.heading], titles, rfl, ?_, ?_, nofun⟩
    · rw [withContents_of_ne_one fun _ => opening.2]
      rfl
    · intro heading member
      exact ⟨opening.1.1, List.mem_singleton.mp member⟩
  · obtain ⟨front, middle, back, same, whole, placed⟩ := exists_split_withContents toc titles
    refine ⟨front, middle, back, same, whole, ?_, ?_⟩
    · intro heading member
      exact ⟨(placed heading member).1, (placed heading member).2.1⟩
    · intro last found heading member
      obtain ⟨_, _, other, again, level⟩ := placed heading member
      obtain rfl := Option.some.inj (found.symm.trans again)
      exact level

end DocContract.Handbook
