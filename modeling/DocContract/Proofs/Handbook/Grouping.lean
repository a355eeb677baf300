import DocContract.Handbook.Checklist
import DocContract.Handbook.Rules
import Mathlib.Data.List.Count
import Mathlib.Data.List.Forall2
import Mathlib.Data.List.Nodup

/-!
Where the entries of rules and checklists stand: under every section that they belong to, in the
order of their markers, and else in a part of their own at the end.
-/

namespace DocContract.Handbook

open DocContract.Blueprint DocContract.Text

/-- A part of a generated document: its title, and the positions of the markers whose entries it
has. -/
structure Part where
  title : String
  positions : List Nat
  deriving DecidableEq, Repr

/-- The parts of a generated document: one for each section, and one for the entries that belong to
none if there are some. -/
structure Layout where
  sections : List Part
  others : Option Part
  deriving DecidableEq, Repr

def Layout.parts (layout : Layout) : List Part :=
  layout.sections ++ layout.others.toList

/-- How many of the sections have the key. -/
def memberships (groups : List Section) (key : Option String) : Nat :=
  groups.countP fun group => belongsTo group key

section

variable {ε : Type} {read : Marker → Option ε} {markers : List Marker} {groups : List Section}
variable {entry : ε} {position : Nat}

variable (read markers) in
def entryAt? (position : Nat) : Option ε :=
  markers[position]?.bind read

variable (read markers) in
def Part.entries (part : Part) : List ε :=
  part.positions.filterMap (entryAt? read markers)

variable (read markers) in
/-- The positions of the entries with the property, each once and in increasing order. -/
structure Lists (property : ε → Prop) (positions : List Nat) : Prop where
  increasing : positions.Pairwise (· < ·)
  mem_iff : ∀ position, position ∈ positions ↔
    ∃ entry, entryAt? read markers position = some entry ∧ property entry

variable (read markers) in
/-- The layout has a part for each section with the entries that name its key, and a part for all
others.  No entry is lost, and none stands anywhere else. -/
structure Arranges (named : ε → Option String) (groups : List Section) (title : String)
    (layout : Layout) : Prop where
  sections : List.Forall₂ (fun group part => part.title = group.title ∧
    Lists read markers (fun entry => named entry = some group.key) part.positions)
    groups layout.sections
  others : ∀ part ∈ layout.others, part.title = title ∧ part.positions ≠ [] ∧
    Lists read markers (fun entry => memberships groups (named entry) = 0) part.positions
  count : ∀ position entry, entryAt? read markers position = some entry →
    (layout.parts.flatMap Part.positions).count position =
      max 1 (memberships groups (named entry))

variable (read markers) in
def positionsOf (wanted : ε → Bool) : List Nat :=
  (List.range markers.length).filter fun position =>
    (entryAt? read markers position).any wanted

theorem lists_positionsOf {wanted : ε → Bool} {property : ε → Prop}
    (agree : ∀ entry, wanted entry = true ↔ property entry) :
    Lists read markers property (positionsOf read markers wanted) where
  increasing := List.pairwise_lt_range.filter _
  mem_iff position := by
    rw [positionsOf, List.mem_filter, List.mem_range, Option.any_eq_true]
    constructor
    · rintro ⟨_, entry, found, own⟩
      exact ⟨entry, found, (agree entry).mp own⟩
    · rintro ⟨entry, found, own⟩
      obtain ⟨marker, located, _⟩ := Option.bind_eq_some_iff.mp found
      exact ⟨(List.getElem?_eq_some_iff.mp located).1, entry, found, (agree entry).mpr own⟩

theorem filterMap_range (read : Marker → Option ε) (markers : List Marker) :
    (List.range markers.length).filterMap (entryAt? read markers) = markers.filterMap read := by
  induction markers with
  | nil => rfl
  | cons marker rest ih =>
    have shifted : entryAt? read (marker :: rest) ∘ Nat.succ = entryAt? read rest := rfl
    rw [List.length_cons, List.range_succ_eq_map, List.filterMap_cons, List.filterMap_map, shifted,
      ih]
    rfl

theorem entries_positionsOf (title : String) (wanted : ε → Bool) :
    (Part.mk title (positionsOf read markers wanted)).entries read markers =
      (markers.filterMap read).filter wanted := by
  rw [Part.entries, positionsOf, List.filterMap_filter, ← filterMap_range, List.filter_filterMap]
  congr 1
  funext position
  cases entryAt? read markers position <;> simp [Option.filter_some]

theorem count_positionsOf (found : entryAt? read markers position = some entry)
    (wanted : ε → Bool) :
    (positionsOf read markers wanted).count position = if wanted entry then 1 else 0 := by
  have listed : Lists read markers (fun entry => wanted entry = true) _ :=
    lists_positionsOf fun _ => Iff.rfl
  rw [listed.increasing.nodup.count]
  simp only [listed.mem_iff, found, Option.some.injEq, exists_eq_left']

def isOther (groups : List Section) (key : Option String) : Bool :=
  !(groups.any fun group => belongsTo group key)

variable (read markers) in
def partOf (named : ε → Option String) (group : Section) : Part :=
  ⟨group.title, positionsOf read markers fun entry => belongsTo group (named entry)⟩

variable (read markers) in
def otherPart (named : ε → Option String) (groups : List Section) (title : String) : Part :=
  ⟨title, positionsOf read markers fun entry => isOther groups (named entry)⟩

variable (read markers) in
def layoutOf (named : ε → Option String) (groups : List Section) (title : String) : Layout where
  sections := groups.map (partOf read markers named)
  others := (some (otherPart read markers named groups title)).filter (!·.positions.isEmpty)

variable {named : ε → Option String}

theorem isOther_iff {key : Option String} :
    isOther groups key = true ↔ memberships groups key = 0 := by
  simp [isOther, memberships, List.countP_eq_zero]

theorem count_sections (named : ε → Option String)
    (found : entryAt? read markers position = some entry) (groups : List Section) :
    ((groups.map (partOf read markers named)).flatMap Part.positions).count position =
      memberships groups (named entry) := by
  induction groups with
  | nil => rfl
  | cons group rest ih =>
    rw [List.map_cons, List.flatMap_cons, List.count_append, ih, partOf, count_positionsOf found,
      memberships, memberships, List.countP_cons, Nat.add_comm]

theorem flatMap_others (part : Part) :
    ((some part).filter (!·.positions.isEmpty)).toList.flatMap Part.positions = part.positions := by
  cases empty : part.positions <;> simp [Option.filter_some, empty]

/-- Entries are laid out by the sections that they name. -/
theorem arranges_layoutOf (named : ε → Option String) (groups : List Section) (title : String) :
    Arranges read markers named groups title (layoutOf read markers named groups title) where
  sections := by
    rw [layoutOf, List.forall₂_map_right_iff, List.forall₂_same]
    intro group _
    exact ⟨rfl, lists_positionsOf fun entry => beq_iff_eq⟩
  others part shown := by
    rw [layoutOf, Option.mem_def, Option.filter_eq_some_iff] at shown
    obtain ⟨own, nonempty⟩ := shown
    obtain rfl := Option.some.inj own
    exact ⟨rfl, by simpa using nonempty, lists_positionsOf fun entry => isOther_iff⟩
  count position entry found := by
    rw [Layout.parts, List.flatMap_append, List.count_append, layoutOf, count_sections named found,
      flatMap_others, otherPart, count_positionsOf found]
    by_cases alone : memberships groups (named entry) = 0
    · rw [if_pos (isOther_iff.mpr alone), alone]
      rfl
    · rw [if_neg (mt isOther_iff.mp alone)]
      omega

theorem isEmpty_entries (title : String) (wanted : ε → Bool) :
    ((Part.mk title (positionsOf read markers wanted)).entries read markers).isEmpty =
      (positionsOf read markers wanted).isEmpty := by
  have listed : Lists read markers (fun entry => wanted entry = true) _ :=
    lists_positionsOf fun _ => Iff.rfl
  cases positions : positionsOf read markers wanted with
  | nil => rfl
  | cons position rest =>
    obtain ⟨entry, found, _⟩ := (listed.mem_iff position).mp (positions ▸ List.mem_cons_self)
    rw [Part.entries, List.filterMap_cons_some found]
    rfl

theorem join_layoutOf (named : ε → Option String) (groups : List Section) (title : String)
    (render : String → List ε → String) {entries others : List ε}
    (all : entries = markers.filterMap read) (rest : others = otherEntries named entries groups) :
    String.join (groups.map fun group => render group.title (entriesOf named entries group)) ++
        (if others.isEmpty then "" else render title others) =
      String.join ((layoutOf read markers named groups title).parts.map fun part =>
        render part.title (part.entries read markers)) := by
  have own (group : Section) : (partOf read markers named group).entries read markers =
      entriesOf named entries group := by
    rw [partOf, entries_positionsOf, ← all]
    rfl
  have remaining : (otherPart read markers named groups title).entries read markers = others := by
    rw [otherPart, entries_positionsOf, ← all, rest]
    rfl
  have empty : (otherPart read markers named groups title).positions.isEmpty = others.isEmpty := by
    rw [← remaining]
    exact (isEmpty_entries title _).symm
  rw [Layout.parts, layoutOf, List.map_append, String.join_append, List.map_map]
  congr 1
  · simp only [Function.comp_def, own]
    rfl
  · rw [Option.filter_some, empty]
    cases others.isEmpty
    · simp [remaining]
      rfl
    · simp

end

def ruleEntry? (marker : Marker) : Option RuleEntry :=
  match marker.payload with
  | .rule rule => some ⟨rule, bodyOf marker⟩
  | _ => none

def checkEntry? (marker : Marker) : Option CheckEntry :=
  match marker.payload with
  | .check check => some ⟨check, bodyOf marker⟩
  | _ => none

theorem ruleEntries_eq (blueprint : Blueprint) :
    ruleEntries blueprint = blueprint.markers.filterMap ruleEntry? := rfl

theorem checkEntries_eq (blueprint : Blueprint) :
    checkEntries blueprint = blueprint.markers.filterMap checkEntry? := rfl

/-- The title and the description in front of the rules. -/
def rulesOpening (blueprint : Blueprint) : String :=
  line ("# " ++ blueprint.title ++ " Rules") ++
    match blueprint.header.description with
    | some description => line ("\n" ++ trim description)
    | none => ""

/-- What is written of a rule: its subject as a heading, and its body unless that is blank. -/
def RuleEntry.written (entry : RuleEntry) : List String :=
  (entry.rule.subject.map fun subject => "\n### " ++ subject).toList ++
    if trim entry.body = "" then [] else ["\n" ++ trim entry.body]

/-- What is written of a check: a box with its id, severity and title, and the lines of its body, of
which those that are not empty stand two blanks to the right. -/
def CheckEntry.written (entry : CheckEntry) : List String :=
  ("- [ ] **" ++ entry.check.id.getD "CHECK" ++ "**" ++
    (entry.check.severity.map fun severity => " `" ++ severity ++ "`").getD "" ++ ": " ++
      entry.check.title.getD "") ::
    (lines (trim entry.body)).map fun text => if text = "" then "" else "  " ++ text

theorem RuleEntry.render_eq (entry : RuleEntry) :
    entry.render = String.join (entry.written.map line) := by
  unfold RuleEntry.render RuleEntry.written
  cases entry.rule.subject <;> by_cases blank : trim entry.body = "" <;> simp [blank]

theorem CheckEntry.render_eq (entry : CheckEntry) :
    entry.render = String.join (entry.written.map line) := by
  unfold CheckEntry.render CheckEntry.written
  rw [List.map_cons, String.join_cons, List.map_map]
  cases entry.check.severity <;> rfl

theorem renderRuleSection_eq (title : String) (entries : List RuleEntry) :
    renderRuleSection title entries =
      line ("\n## " ++ title) ++ String.join (entries.map RuleEntry.render) := rfl

theorem renderDomain_eq (title : String) (entries : List CheckEntry) :
    renderDomain title entries =
      line ("\n## " ++ title ++ "\n") ++ String.join (entries.map CheckEntry.render) := rfl

/-- Between their opening and the tables at their end, the rules are written under the headings of
the sections that they belong to, or else under that of the others, and a checklist has its checks
in the same way.  The text of an entry tells all of it. -/
theorem handbook_lists_entries (blueprint : Blueprint) :
    (∃ layout, Arranges ruleEntry? blueprint.markers (fun entry => entry.rule.kind)
          (ruleSections blueprint) "Other Rules" layout ∧
        renderRules blueprint = rulesOpening blueprint ++
          String.join (layout.parts.map fun part => line ("\n## " ++ part.title) ++
            String.join ((part.entries ruleEntry? blueprint.markers).map RuleEntry.render)) ++
          (renderIds (idDeclarations blueprint) ++
            renderOutline (headingDeclarations blueprint))) ∧
      (∃ layout, Arranges checkEntry? blueprint.markers (fun entry => entry.check.domain)
          (checkDomains blueprint) "General" layout ∧
        renderChecklist blueprint = line ("# " ++ blueprint.title ++ " Checklist") ++
          String.join (layout.parts.map fun part => line ("\n## " ++ part.title ++ "\n") ++
            String.join ((part.entries checkEntry? blueprint.markers).map CheckEntry.render))) ∧
      (∀ entry : RuleEntry, entry.render = String.join (entry.written.map line)) ∧
      ∀ entry : CheckEntry, entry.render = String.join (entry.written.map line) := by
  refine ⟨⟨_, arranges_layoutOf _ _ _, ?rules⟩, ⟨_, arranges_layoutOf _ _ _, ?checks⟩,
    RuleEntry.render_eq, CheckEntry.render_eq⟩
  case rules =>
    simp only [← renderRuleSection_eq]
    rw [← join_layoutOf _ _ _ renderRuleSection (ruleEntries_eq blueprint) rfl]
    unfold renderRules rulesOpening
    cases blueprint.header.description <;> simp only [String.append_assoc]
  case checks =>
    simp only [← renderDomain_eq]
    rw [← join_layoutOf _ _ _ renderDomain (checkEntries_eq blueprint) rfl]
    simp only [renderChecklist, String.append_assoc]

end DocContract.Handbook
