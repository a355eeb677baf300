import DocContract.Proofs.Outline.Issues
import DocContract.Proofs.TitlePattern.Numbering
import Mathlib.Data.List.Forall2

/-!
Numbers in front of titles do not count when headings are placed: an outline that is numbered anew
has its headings in the same slots, and the same ones are missing, too many or too few.
-/

namespace DocContract.Outline

open DocContract.Text

/-- The headings have the same level, and each of the slots accepts both or neither. -/
structure Alike (slots : List Slot) (heading other : Heading) : Prop where
  level : heading.level = other.level
  accepts : ∀ slot ∈ slots, slot.accepts heading = slot.accepts other

/-- The entries stand at the same position, and no slot tells their headings apart. -/
def AlikeAt (slots : List Slot) (entry other : Heading × Nat) : Prop :=
  Alike slots entry.1 other.1 ∧ entry.2 = other.2

section

variable {slots rest : List Slot} {headings others : List Heading} {done : List Placement}
variable {entries twins : List (Heading × Nat)} {slot : Slot} {sibling : Option Slot}

theorem map_level_of_alike (alike : List.Forall₂ (Alike slots) headings others) :
    headings.map (·.level) = others.map (·.level) := by
  induction alike with
  | nil => rfl
  | cons same _ ih => rw [List.map_cons, List.map_cons, same.level, ih]

theorem sectionEnd_congr (levels : headings.map (·.level) = others.map (·.level)) (index : Nat) :
    sectionEnd headings index = sectionEnd others index := by
  have size : headings.length = others.length := by simpa using congrArg List.length levels
  have opener : headings[index]?.map (·.level) = others[index]?.map (·.level) := by
    rw [← List.getElem?_map, levels, List.getElem?_map]
  have length (outline : List Heading) (least : UInt8) :
      ((outline.drop (index + 1)).takeWhile fun heading => least < heading.level).length =
        (((outline.map (·.level)).drop (index + 1)).takeWhile (least < ·)).length := by
    rw [← List.map_drop, List.takeWhile_map, List.length_map]
    rfl
  cases found : headings[index]? with
  | none =>
    have missing : others[index]? = none := by simpa [found] using opener.symm
    simp only [sectionEnd, found, missing, size]
  | some heading =>
    obtain ⟨other, present, same⟩ : ∃ other, others[index]? = some other ∧
        other.level = heading.level := by simpa [found] using opener.symm
    simp only [sectionEnd, found, present, same, length, levels]

theorem window?_congr (alike : List.Forall₂ (Alike slots) headings others)
    (levels : List UInt8) (done : List Placement) :
    window? levels headings done = window? levels others done := by
  have ends := sectionEnd_congr (map_level_of_alike alike)
  simp only [window?, alike.length_eq, ends]

theorem between_alike (alike : List.Forall₂ (Alike slots) headings others) (start stop : Nat) :
    List.Forall₂ (AlikeAt slots) (between headings start stop) (between others start stop) := by
  have size := alike.length_eq
  apply between_induction (motive := fun start entries =>
    List.Forall₂ (AlikeAt slots) entries (between others start stop))
  · intro start ended
    have behind : others[start]? = none ∨ stop ≤ start := by
      rwa [List.getElem?_eq_none_iff, size, ← List.getElem?_eq_none_iff] at ended
    rw [between_eq_nil behind]
    exact .nil
  · intro start heading found inside ih
    obtain ⟨bound, rfl⟩ := List.getElem?_eq_some_iff.mp found
    rw [between_eq_cons (List.getElem?_eq_getElem (size ▸ bound)) inside]
    exact .cons ⟨alike.get bound (size ▸ bound), rfl⟩ ih

/-- The first entries that a slot accepts stand at the same position. -/
theorem find?_congr (member : slot ∈ slots)
    (alike : List.Forall₂ (AlikeAt slots) entries twins) :
    (entries.find? fun entry => slot.accepts entry.1).map (·.2) =
      (twins.find? fun entry => slot.accepts entry.1).map (·.2) := by
  induction alike with
  | nil => rfl
  | cons same _ ih =>
    rw [List.find?_cons, List.find?_cons, same.1.accepts slot member]
    split
    · exact congrArg some same.2
    · exact ih

theorem furtherHits_congr (member : slot ∈ slots) (listed : ∀ other ∈ sibling, other ∈ slots)
    (alike : List.Forall₂ (AlikeAt slots) entries twins) :
    furtherHits slot sibling entries = furtherHits slot sibling twins := by
  induction alike with
  | nil => rfl
  | @cons entry twin _ _ same _ ih =>
    have left : sibling.any (·.accepts entry.1) = sibling.any (·.accepts twin.1) := by
      cases sibling with
      | none => rfl
      | some other => exact same.1.accepts other (listed other rfl)
    rw [furtherHits, furtherHits, same.1.level, same.1.accepts slot member, left, same.2, ih]

/-- One step: the next slot finds the same in both outlines behind the same placements. -/
theorem placeNext_congr (alike : List.Forall₂ (Alike slots) headings others)
    (member : slot ∈ slots) :
    placeNext slots headings done slot = placeNext slots others done slot := by
  simp only [placeNext, window?_congr alike]
  cases window? (slots.map (·.level)) others done with
  | none => rfl
  | some window =>
    have same := find?_congr member (between_alike alike window.start window.stop)
    have listed : ∀ other ∈ (Hierarchy.nextSibling? (slots.map (·.level)) done.length).bind
        fun index => slots[index]?, other ∈ slots := by
      intro other found
      obtain ⟨index, _, held⟩ := Option.bind_eq_some_iff.mp found
      exact List.mem_of_getElem? held
    cases own : (between headings window.start window.stop).find?
        fun entry => slot.accepts entry.1 with
    | none =>
      rw [own] at same
      simp only [own, Option.map_eq_none_iff.mp same.symm]
    | some entry =>
      rw [own] at same
      obtain ⟨twin, other, position⟩ := Option.map_eq_some_iff.mp same.symm
      simp only [own, other, position]
      rw [furtherHits_congr member listed (between_alike alike (entry.2 + 1) window.stop)]

theorem placeFrom_congr (alike : List.Forall₂ (Alike slots) headings others)
    (within : ∀ slot ∈ rest, slot ∈ slots) :
    placeFrom slots headings done rest = placeFrom slots others done rest := by
  induction rest generalizing done with
  | nil => rfl
  | cons slot rest ih =>
    obtain ⟨member, more⟩ := List.forall_mem_cons.mp within
    rw [placeFrom, placeFrom, placeNext_congr alike member, ih more]

theorem place_congr (alike : List.Forall₂ (Alike slots) headings others) :
    place slots headings = place slots others :=
  placeFrom_congr alike fun _ member => member

end

/-- What headings are reported for by their places and not by their numbers. -/
def structuralCodes : List IssueCode :=
  [.headingMissing, .headingProhibitsMultiple, .headingRequiresMultiple]

/-- The issues with the places of headings. -/
def structuralIssues (issues : List Issue) : List Issue :=
  issues.filter fun issue => structuralCodes.contains issue.code

section

variable {path : String} {headings others : List Heading} {rule : HeadingRule}

theorem structuralIssues_append (issues more : List Issue) :
    structuralIssues (issues ++ more) = structuralIssues issues ++ structuralIssues more :=
  List.filter_append issues more

theorem structuralIssues_flatMap (items : List α) (issues : α → List Issue) :
    structuralIssues (items.flatMap issues) =
      items.flatMap fun item => structuralIssues (issues item) :=
  List.filter_flatMap

theorem structuralIssues_sequenceIssues :
    structuralIssues (sequenceIssues path headings) = [] := by
  refine List.filter_eq_nil_iff.mpr ?_
  intro issue member
  rw [code_of_mem_sequenceIssues member]
  decide

theorem structuralIssues_found (first : Nat) (more : List Nat) :
    structuralIssues (ruleIssues path headings rule (.found first more)) =
      structuralIssues (countIssue? path rule headings first more).toList := by
  rw [ruleIssues, structuralIssues_append]
  refine List.append_right_eq_self.mpr (List.filter_eq_nil_iff.mpr ?_)
  intro issue member
  obtain ⟨heading, _, broken⟩ := List.mem_filterMap.mp member
  obtain ⟨policy, _, rfl⟩ := Option.map_eq_some_iff.mp broken
  rcases code_numberingIssue path rule heading policy with own | own
  · rw [own]
    decide
  · rw [own]
    decide

theorem structuralIssues_ruleIssues_congr
    (lines : headings.map (·.line) = others.map (·.line)) (placement : Placement) :
    structuralIssues (ruleIssues path headings rule placement) =
      structuralIssues (ruleIssues path others rule placement) := by
  have lineAt (index : Nat) : headings[index]?.map (·.line) = others[index]?.map (·.line) := by
    rw [← List.getElem?_map, lines, List.getElem?_map]
  cases placement with
  | skipped => rfl
  | missing parent => simp only [ruleIssues, lineAt]
  | found first more => simp only [structuralIssues_found, countIssue?, lineAt]

end

/-- The headings differ in nothing but the numbers in front of their titles, and these need not be
there. -/
structure Renumbers (heading other : Heading) : Prop where
  line : heading.line = other.line
  level : heading.level = other.level
  titles : ∃ bare, IsBare bare ∧ Numbered heading.title.toList bare ∧
    Numbered other.title.toList bare

section

variable {contract : Contract} {headings others : List Heading} {rule : HeadingRule}
variable {heading other : Heading}

theorem accepts_ofRule_congr (renumbers : Renumbers heading other)
    (free : ∀ written ∈ rule.pattern, TitlePattern.LeavesNumber written) :
    (Slot.ofRule rule).accepts heading = (Slot.ofRule rule).accepts other := by
  obtain ⟨bare, isBare, numbered, renumbered⟩ := renumbers.titles
  have titles : (Matcher.ofPattern rule.pattern).accepts heading.title =
      (Matcher.ofPattern rule.pattern).accepts other.title := by
    cases wanted : rule.pattern with
    | none => rfl
    | some written =>
      cases compiled : TitlePattern.compile? written with
      | none => simp only [Matcher.ofPattern, compiled, Matcher.accepts]
      | some pattern =>
        simp only [Matcher.ofPattern, compiled, Matcher.accepts]
        exact TitlePattern.accepts_eq_of_numbered isBare numbered renumbered (free written wanted)
          compiled
  rw [Slot.accepts, Slot.accepts, renumbers.level]
  exact congrArg _ titles

theorem alike_of_renumbers
    (free : ∀ rule ∈ contract.headings, ∀ written ∈ rule.pattern,
      TitlePattern.LeavesNumber written) (renumbers : Renumbers heading other) :
    Alike (contract.headings.map Slot.ofRule) heading other where
  level := renumbers.level
  accepts slot member := by
    obtain ⟨rule, listed, rfl⟩ := List.mem_map.mp member
    exact accepts_ofRule_congr renumbers (free rule listed)

theorem map_line_of_renumbers (renumbered : List.Forall₂ Renumbers headings others) :
    headings.map (·.line) = others.map (·.line) := by
  induction renumbered with
  | nil => rfl
  | cons same _ ih => rw [List.map_cons, List.map_cons, same.line, ih]

end

/-- Numbering an outline anew moves no heading to another slot, and the same headings are reported
as missing, too many or too few, unless a literal of the contract asks for a number. -/
theorem check_renumbered (path : String) (contract : Contract) (headings others : List Heading)
    (free : ∀ rule ∈ contract.headings, ∀ written ∈ rule.pattern,
      TitlePattern.LeavesNumber written)
    (renumbered : List.Forall₂ Renumbers headings others) :
    placements contract headings = placements contract others ∧
      structuralIssues (check path contract headings).issues =
        structuralIssues (check path contract others).issues := by
  have alike : List.Forall₂ (Alike (contract.headings.map Slot.ofRule)) headings others :=
    renumbered.imp fun _ _ => alike_of_renumbers free
  have placed : placements contract headings = placements contract others := place_congr alike
  refine ⟨placed, ?_⟩
  simp only [check, structuralIssues_append, structuralIssues_flatMap,
    structuralIssues_sequenceIssues,
    structuralIssues_ruleIssues_congr (map_line_of_renumbers renumbered), placed]

/-- One overview, in it several actors, and a scope behind it. -/
def overviewContract : Contract where
  name := "PRD"
  description := none
  headings := [
    ⟨"overview", 2, some "Overview", none, true, .prohibited, .allowed, none, none⟩,
    ⟨"actors", 3, some "^Actors?$", none, true, .required, .required, none, none⟩,
    ⟨"scope", 2, some "Scope", none, true, .allowed, .allowed, none, none⟩]
  definedIds := ∅

def numberedOutline : List Heading := [
  ⟨1, 2, "1. Overview", true, [1]⟩, ⟨3, 2, "2. Overview", true, [2]⟩,
  ⟨5, 3, "2.1 Actors", true, [2, 1]⟩, ⟨7, 2, "Risks", false, []⟩]

/-- The same headings with other numbers, two of them without and the last one with a number. -/
def renumberedOutline : List Heading := [
  ⟨1, 2, "Overview", false, []⟩, ⟨3, 2, "1. Overview", true, [1]⟩,
  ⟨5, 3, "Actors", false, []⟩, ⟨7, 2, "2. Risks", true, [2]⟩]

/-- In both outlines there is one overview too many, one actor too few and no scope. -/
theorem check_numberedOutline :
    placements overviewContract numberedOutline = placements overviewContract renumberedOutline ∧
      structuralIssues (check "docs/PRD.md" overviewContract numberedOutline).issues =
        structuralIssues (check "docs/PRD.md" overviewContract renumberedOutline).issues ∧
      (structuralIssues (check "docs/PRD.md" overviewContract numberedOutline).issues).map
        (·.code) = [.headingProhibitsMultiple, .headingRequiresMultiple, .headingMissing] := by
  have number (digit : Char) (ascii : isAsciiDigit digit = true) :
      NumberPrefix [digit, '.', ' '] :=
    .intro [[digit]] ['.'] [' '] (by simp) (by simpa using ascii) (.inr rfl) (by simp)
      (by simp [Blank, isBlank])
  have dotted : NumberPrefix ['2', '.', '1', ' '] :=
    .intro [['2'], ['1']] [] [' '] (by simp) (by simp [isAsciiDigit]) (.inl rfl) (by simp)
      (by simp [Blank, isBlank])
  have renumbered : List.Forall₂ Renumbers numberedOutline renumberedOutline :=
    .cons ⟨rfl, rfl, "Overview".toList, ⟨_, rfl, by decide⟩, .inr ⟨_, number '1' rfl, rfl⟩,
      .inl rfl⟩ <|
    .cons ⟨rfl, rfl, "Overview".toList, ⟨_, rfl, by decide⟩, .inr ⟨_, number '2' rfl, rfl⟩,
      .inr ⟨_, number '1' rfl, rfl⟩⟩ <|
    .cons ⟨rfl, rfl, "Actors".toList, ⟨_, rfl, by decide⟩, .inr ⟨_, dotted, rfl⟩, .inl rfl⟩ <|
    .cons ⟨rfl, rfl, "Risks".toList, ⟨_, rfl, by decide⟩, .inl rfl,
      .inr ⟨_, number '2' rfl, rfl⟩⟩ .nil
  have codes : (structuralIssues (check "docs/PRD.md" overviewContract numberedOutline).issues).map
      (·.code) = [.headingProhibitsMultiple, .headingRequiresMultiple, .headingMissing] := by
    decide +kernel
  obtain ⟨placed, same⟩ := check_renumbered "docs/PRD.md" overviewContract numberedOutline
    renumberedOutline (by decide +kernel) renumbered
  exact ⟨placed, same, codes⟩

end DocContract.Outline
