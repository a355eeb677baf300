import DocContract.Proofs.Handbook.Skeleton
import DocContract.Proofs.Outline.Soundness
import DocContract.Proofs.Outline.Spread
import DocContract.Proofs.Schema.WellFormed

namespace DocContract

open DocContract.Blueprint DocContract.Outline DocContract.Text

namespace Compile

variable {rules : List HeadingRule} {rule : HeadingRule}

theorem map_ofRule_linkSiblings (rules : List HeadingRule) :
    (linkSiblings rules).map Slot.ofRule = rules.map Slot.ofRule := by
  apply List.ext_getElem
  · simp [linkSiblings]
  · intro index _ _
    simp [linkSiblings, Slot.ofRule]

theorem undemanding_linkSiblings (undemanding : ∀ rule ∈ rules, Undemanding rule)
    (member : rule ∈ linkSiblings rules) : Undemanding rule := by
  obtain ⟨index, bound, rfl⟩ := List.mem_mapIdx.mp member
  obtain ⟨single, unnumbered⟩ := undemanding _ (List.getElem_mem bound)
  exact ⟨single, unnumbered⟩

/-- A blueprint that compiles alone has a contract, with the headings that it declares. -/
theorem artifact?_linkedSchema (blueprint : Blueprint) :
    ∃ contract, (linkedSchema [blueprint]).artifact? blueprint.artifactKind = some contract ∧
      contract.headings = linkSiblings (blueprint.markers.filterMap headingRule?) := by
  refine ⟨linked (Compile.contract blueprint.artifactKind [blueprint]), ?_, ?_⟩
  · exact Sorted.KeyMap.find?_eq_some_iff.mpr
      (mem_linkedSchema_iff.mpr ⟨rfl, blueprint, List.mem_singleton_self _, rfl⟩)
  · simp [linked, headings_contract, blueprintsOf]

end Compile

namespace Handbook

variable {blueprint : Blueprint} {schema : Schema}

/-- Each heading that the blueprint declares becomes a rule that accepts its title in the template
and wants neither several headings nor numbers, and the title is read as it is written.  Prompts and
the templates of identifiers hold neither headings nor fences, and no heading is mistaken for the
table of contents. -/
structure SelfDescribing (blueprint : Blueprint) : Prop where
  headings : ∀ marker ∈ blueprint.markers, ∀ declaration, marker.payload = .heading declaration →
    ∃ rule title, HeadingRule.ofDeclaration? declaration = some rule ∧
      declaration.templateTitle = some title ∧
      (Matcher.ofPattern rule.pattern).accepts title = true ∧ Undemanding rule ∧
      PlainTitle title.toList
  texts : ∀ marker ∈ blueprint.markers, ∀ text ∈ templateSelection.body marker,
    ∀ line ∈ splitLines text.toList, Ordinary line
  contents : blueprint.header.toc = true →
    ∀ marker ∈ blueprint.markers, ∀ rule ∈ Compile.headingRule? marker, rule.level = 2 →
      (Matcher.ofPattern rule.pattern).accepts "Table of Contents" = false

/-- The rule of a heading and its title in the template belong together. -/
structure Agrees (rule : HeadingRule) (title : Title) : Prop where
  admits : rule.Admits title.heading
  undemanding : Undemanding rule
  plain : PlainTitle title.text.toList

theorem level_of_ofDeclaration? {declaration : HeadingDeclaration} {rule : HeadingRule}
    (found : HeadingRule.ofDeclaration? declaration = some rule) :
    rule.level = declaration.level := by
  obtain ⟨id, _, rfl⟩ := Option.map_eq_some_iff.mp found
  rfl

theorem SelfDescribing.marker (describing : SelfDescribing blueprint) {marker : Marker}
    (member : marker ∈ blueprint.markers) :
    Option.Rel Agrees (Compile.headingRule? marker) (templateSelection.titleOf marker) := by
  cases payload : marker.payload with
  | heading declaration =>
    obtain ⟨rule, title, ruled, titled, accepted, undemanding, plain⟩ :=
      describing.headings marker member declaration payload
    have own : Compile.headingRule? marker = some rule := by
      simpa only [Compile.headingRule?, payload] using ruled
    have shown : templateSelection.titleOf marker = some ⟨declaration.level, title⟩ := by
      simp [Selection.titleOf, templateSelection, payload, titled]
    rw [own, shown]
    exact .some ⟨⟨(level_of_ofDeclaration? ruled).symm, accepted⟩, undemanding, plain⟩
  | _ =>
    simp only [Compile.headingRule?, Selection.titleOf, payload]
    exact .none

theorem SelfDescribing.agrees (describing : SelfDescribing blueprint) :
    List.Forall₂ Agrees (blueprint.markers.filterMap Compile.headingRule?)
      (templateSelection.titles blueprint.markers) := by
  have same : List.Forall₂ (fun first second => first = second ∧ first ∈ blueprint.markers)
      blueprint.markers blueprint.markers :=
    List.forall₂_same.mpr fun marker member => ⟨rfl, member⟩
  refine List.rel_filterMap ?_ same
  rintro marker _ ⟨rfl, member⟩
  exact describing.marker member

theorem exists_of_mem_forall₂ {relation : α → β → Prop} {firsts : List α} {seconds : List β}
    {second : β} (related : List.Forall₂ relation firsts seconds) (member : second ∈ seconds) :
    ∃ first ∈ firsts, relation first second := by
  induction related with
  | nil => cases member
  | cons own _ ih =>
    rcases List.mem_cons.mp member with rfl | later
    · exact ⟨_, List.mem_cons_self, own⟩
    · obtain ⟨first, inside, related⟩ := ih later
      exact ⟨first, List.mem_cons_of_mem _ inside, related⟩

theorem SelfDescribing.undemanding (describing : SelfDescribing blueprint) {rule : HeadingRule}
    (member : rule ∈ blueprint.markers.filterMap Compile.headingRule?) : Undemanding rule := by
  obtain ⟨title, _, agrees⟩ := exists_of_mem_forall₂ (List.Forall₂.flip (R := flip Agrees)
    describing.agrees) member
  exact agrees.undemanding

theorem SelfDescribing.readable (describing : SelfDescribing blueprint)
    (leveled : ∀ rule ∈ blueprint.markers.filterMap Compile.headingRule?,
      1 ≤ rule.level ∧ rule.level ≤ 6) :
    templateSelection.Readable blueprint.markers where
  titles title member := by
    obtain ⟨rule, inside, agrees⟩ := exists_of_mem_forall₂ describing.agrees member
    obtain ⟨least, most⟩ := leveled rule inside
    rw [← agrees.admits.1] at least most
    exact ⟨least, most, agrees.plain⟩
  bodies := describing.texts

theorem SelfDescribing.refuses_contents (describing : SelfDescribing blueprint)
    (toc : blueprint.header.toc = true) {rule : HeadingRule}
    (member : rule ∈ blueprint.markers.filterMap Compile.headingRule?) :
    (Slot.ofRule rule).accepts contentsTitle.heading = false := by
  obtain ⟨marker, inside, ruled⟩ := List.mem_filterMap.mp member
  rw [Bool.eq_false_iff]
  intro accepted
  obtain ⟨level, accepted⟩ := accepts_ofRule_iff.mp accepted
  have refused := describing.contents toc marker inside rule ruled level.symm
  rw [Bool.eq_false_iff] at refused
  exact refused accepted

/-- The headings that are found in a template: those of its titles, with a table of contents that
may stand in front of them all or behind one of level one. -/
theorem SelfDescribing.scan (describing : SelfDescribing blueprint)
    (leveled : ∀ rule ∈ blueprint.markers.filterMap Compile.headingRule?,
      1 ≤ rule.level ∧ rule.level ≤ 6) :
    ∃ front middle back, scanHeadings (renderTemplate blueprint) = front ++ middle ++ back ∧
      (front ++ back).map Heading.unplaced =
        (templateSelection.titles blueprint.markers).map Title.heading ∧
      (∀ heading ∈ middle, blueprint.header.toc = true ∧
        heading.unplaced = contentsTitle.heading) ∧
      ∀ last ∈ front.getLast?, ∀ heading ∈ middle, last.level = 1 := by
  have scanned := (reads_renderSkeleton (describing.readable leveled)).scan
  obtain ⟨titled, contents, behind, same, whole, inserted, opening⟩ := exists_split_skeletonHeadings
    blueprint.header.toc (templateSelection.titles blueprint.markers)
  rw [whole] at scanned
  obtain ⟨_, back, split, starts, ends⟩ := List.map_eq_append_iff.mp scanned
  obtain ⟨front, middle, rfl, fronts, rfl⟩ := List.map_eq_append_iff.mp starts
  refine ⟨front, middle, back, split, ?_, ?_, ?_⟩
  · rw [List.map_append, fronts, ends, same, List.map_append]
  · intro heading member
    exact inserted _ (List.mem_map_of_mem member)
  · intro last found heading member
    have located : last.unplaced ∈ (titled.map Title.heading).getLast? := by
      rw [← fronts, List.getLast?_map, Option.mem_def.mp found]
      rfl
    rw [List.getLast?_map] at located
    obtain ⟨title, own, level⟩ := Option.map_eq_some_iff.mp located
    have first := opening title own _ (List.mem_map_of_mem member)
    rw [← first]
    exact (congrArg Heading.level level).symm

theorem SelfDescribing.fills (describing : SelfDescribing blueprint) {headings : List Heading}
    (titled : headings.map Heading.unplaced =
      (templateSelection.titles blueprint.markers).map Title.heading) :
    Fills ((blueprint.markers.filterMap Compile.headingRule?).map Slot.ofRule) headings := by
  have accepted : List.Forall₂ (fun slot heading => slot.accepts heading = true)
      ((blueprint.markers.filterMap Compile.headingRule?).map Slot.ofRule)
      (headings.map Heading.unplaced) := by
    rw [titled, List.forall₂_map_left_iff, List.forall₂_map_right_iff]
    exact describing.agrees.imp fun _ _ agrees => accepts_ofRule_iff.mpr agrees.admits
  exact .of_forall₂ (List.forall₂_map_right_iff.mp accepted)

/-- Each rule has its own heading in the template, and none of the headings has a number. -/
theorem SelfDescribing.spread (describing : SelfDescribing blueprint)
    (leveled : ∀ rule ∈ blueprint.markers.filterMap Compile.headingRule?,
      1 ≤ rule.level ∧ rule.level ≤ 6) :
    (∃ own, Spread ((blueprint.markers.filterMap Compile.headingRule?).map Slot.ofRule)
        (scanHeadings (renderTemplate blueprint)) own) ∧
      ∀ heading ∈ scanHeadings (renderTemplate blueprint),
        heading.numbered = false ∧ heading.numberParts = [] := by
  obtain ⟨front, middle, back, scanned, titled, inserted, opening⟩ := describing.scan leveled
  rw [scanned]
  constructor
  · refine ⟨_, (describing.fills titled).spread_insert ?_ ?_⟩
    · intro heading member slot inside
      obtain ⟨rule, ruled, rfl⟩ := List.mem_map.mp inside
      obtain ⟨toc, same⟩ := inserted heading member
      have refused := describing.refuses_contents toc ruled
      rwa [← same] at refused
    · intro last own heading member
      have level : heading.level = 2 := congrArg Heading.level (inserted heading member).2
      rw [opening last own heading member, level]
      decide
  · intro heading member
    obtain ⟨title, same⟩ : ∃ title : Title, heading.unplaced = title.heading := by
      rw [List.append_assoc, List.mem_append, List.mem_append, or_left_comm, ← List.mem_append]
        at member
      rcases member with contents | own
      · exact ⟨contentsTitle, (inserted heading contents).2⟩
      · have shown := List.mem_map_of_mem (f := Heading.unplaced) own
        rw [titled] at shown
        obtain ⟨title, _, same⟩ := List.mem_map.mp shown
        exact ⟨title, same.symm⟩
    exact ⟨congrArg Heading.numbered same, congrArg Heading.numberParts same⟩

/-- The template satisfies the contract: the headings that it is read as, with or without a table of
contents, have no issues with the contract that the blueprint alone is compiled into. -/
theorem template_satisfies_contract (path : String) (blueprint : Blueprint) (schema : Schema)
    (declares : blueprint.codebase = false) (compiled : Schema.compile [blueprint] = .ok schema)
    (describing : SelfDescribing blueprint) :
    ∃ contract, schema.artifact? blueprint.artifactKind = some contract ∧
      (Outline.check path contract (scanHeadings (renderTemplate blueprint))).issues = [] := by
  obtain ⟨admissible, rfl⟩ := (Compile.compile_singleton_iff declares).mp compiled
  obtain ⟨contract, found, declared⟩ := Compile.artifact?_linkedSchema blueprint
  obtain ⟨⟨own, spread⟩, plain⟩ := describing.spread admissible.leveled
  have slots : contract.headings.map Slot.ofRule =
      (blueprint.markers.filterMap Compile.headingRule?).map Slot.ofRule := by
    rw [declared, Compile.map_ofRule_linkSiblings]
  have undemanding : ∀ rule ∈ contract.headings, Undemanding rule := by
    rw [declared]
    exact fun rule => Compile.undemanding_linkSiblings fun rule => describing.undemanding
  rw [← slots] at spread
  exact ⟨contract, found, spread.check_issues undemanding plain⟩

/-- A blueprint with a table of contents, overlapping patterns, a prompt and the template of an
identifier. -/
def requirementsBlueprint : Blueprint where
  path := "kits/prd/PRD.md"
  markers := [
    ⟨.blueprint { artifact := some "PRD", toc := true }, [], none, 1, 6⟩,
    ⟨.heading { id := some "preface", pattern := some "Pre.*", template := some "Preface #1" },
      [], none, 8, 14⟩,
    ⟨.heading { id := some "title", declaredLevel := some 1, description := some "Product" },
      [], none, 16, 22⟩,
    ⟨.prompt, [], some "Say what is built, and why.\n\n    # not a heading\n", 24, 30⟩,
    ⟨.heading { pattern := some "Requirements" }, [], none, 32, 37⟩,
    ⟨.heading { id := some "single", declaredLevel := some 3, multiple := some .prohibited },
      [], none, 39, 46⟩,
    ⟨.id { kind := some "fr", template := some "- [ ] **ID**: cpt-slug-fr-name" }, [], none,
      48, 54⟩,
    ⟨.heading { id := some "any", declaredLevel := some 3 }, [], none, 56, 61⟩]
  artifactKind := "PRD"
  header := { artifact := some "PRD", toc := true }
  codebase := false
  problems := []

/-- Its headings with their titles in the template. -/
def requirementsHeadings : List (HeadingRule × String) := [
  (⟨"preface", 2, some "Pre.*", none, true, .allowed, .allowed, none, none⟩, "Preface #1"),
  (⟨"title", 1, none, some "Product", true, .allowed, .allowed, none, none⟩, "Product"),
  (⟨"requirements", 2, some "Requirements", none, true, .allowed, .allowed, none, none⟩,
    "Requirements"),
  (⟨"single", 3, none, none, true, .prohibited, .allowed, none, none⟩, "single"),
  (⟨"any", 3, none, none, true, .allowed, .allowed, none, none⟩, "any")]

theorem plainTitle_of_requirements {rule : HeadingRule} {title : String}
    (member : (rule, title) ∈ requirementsHeadings) : PlainTitle title.toList := by
  have checked : ∀ entry ∈ requirementsHeadings,
      entry.2.toList ≠ [] ∧ trimChars entry.2.toList = entry.2.toList ∧ '\n' ∉ entry.2.toList ∧
        entry.2.toList.head?.any isDecimalDigit = false ∧ entry.2.toList.getLast? ≠ some '#' := by
    decide +kernel
  obtain ⟨nonempty, trimmed, single, first, last⟩ := checked (rule, title) member
  exact .of_ends nonempty trimmed single first last

theorem selfDescribing_requirementsBlueprint : SelfDescribing requirementsBlueprint where
  headings := by
    intro marker member declaration payload
    have wanted : ∃ entry ∈ requirementsHeadings,
        HeadingRule.ofDeclaration? declaration = some entry.1 ∧
          declaration.templateTitle = some entry.2 ∧
          (Matcher.ofPattern entry.1.pattern).accepts entry.2 = true ∧
          entry.1.multiple ≠ .required ∧ entry.1.numbered ≠ .required := by
      simp only [requirementsBlueprint, List.mem_cons, List.not_mem_nil, or_false] at member
      rcases member with rfl | rfl | rfl | rfl | rfl | rfl | rfl | rfl <;> cases payload
      all_goals decide +kernel
    obtain ⟨⟨rule, title⟩, inside, ruled, titled, accepted, single, unnumbered⟩ := wanted
    exact ⟨rule, title, ruled, titled, accepted, ⟨single, unnumbered⟩,
      plainTitle_of_requirements inside⟩
  texts := by decide +kernel
  contents := by decide +kernel

/-- The last two rules take all titles of their level, so that each would take that of the other.
The table of contents stands between the title of the document and the requirements. -/
theorem template_satisfies_requirements :
    SelfDescribing requirementsBlueprint ∧
      ∃ schema, Schema.compile [requirementsBlueprint] = .ok schema ∧
        ∃ contract, schema.artifact? "PRD" = some contract ∧
          (Outline.check "docs/PRD.md" contract
            (scanHeadings (renderTemplate requirementsBlueprint))).issues = [] := by
  have rules : requirementsBlueprint.markers.filterMap Compile.headingRule? =
      requirementsHeadings.map Prod.fst := by
    decide +kernel
  have admissible : Compile.Admissible (requirementsHeadings.map Prod.fst) := by
    have expression : (TitlePattern.compile? "Pre.*").isSome = true := by decide +kernel
    have literal : (TitlePattern.compile? "Requirements").isSome = true := by decide +kernel
    constructor
    · decide +kernel
    · decide +kernel
    · simp [requirementsHeadings, ← Option.isSome_iff_exists, expression, literal]
    · simp [requirementsHeadings]
  have compiled : Schema.compile [requirementsBlueprint] =
      .ok (Compile.linkedSchema [requirementsBlueprint]) :=
    (Compile.compile_singleton_iff rfl).mpr ⟨rules ▸ admissible, rfl⟩
  exact ⟨selfDescribing_requirementsBlueprint, _, compiled,
    template_satisfies_contract "docs/PRD.md" requirementsBlueprint _ rfl compiled
      selfDescribing_requirementsBlueprint⟩

end Handbook

end DocContract
