import DocContract.Proofs.Schema.WellFormed
import Mathlib.Data.List.Forall2

namespace DocContract

open DocContract.Blueprint DocContract.Sorted DocContract.Text

namespace Compile

/-- The blueprints of artifacts in the order of their paths; those with one path stand as they were
given. -/
structure PathOrder (blueprints arranged : List Blueprint) : Prop where
  perm : arranged.Perm (blueprints.filter fun blueprint => !blueprint.codebase)
  sorted : arranged.Pairwise fun first second => Pathname.le first.path second.path = true
  stable : ∀ steps, (arranged.filter fun blueprint => Pathname.steps blueprint.path == steps) =
    (blueprints.filter fun blueprint => !blueprint.codebase).filter fun blueprint =>
      Pathname.steps blueprint.path == steps

def headingDeclarations (blueprints : List Blueprint) : List HeadingDeclaration :=
  blueprints.flatMap fun blueprint => blueprint.markers.filterMap fun marker =>
    match marker.payload with
    | .heading declaration => some declaration
    | _ => none

def idDeclarations (blueprints : List Blueprint) : List IdDeclaration :=
  blueprints.flatMap fun blueprint => blueprint.markers.filterMap fun marker =>
    match marker.payload with
    | .id declaration => some declaration
    | _ => none

/-- Whether the heading has an id that is not blank, or a pattern that an id can be made from. -/
def named (declaration : HeadingDeclaration) : Bool :=
  (declaration.id.any fun id => trim id ≠ "") ||
    declaration.pattern.any fun pattern => slugify (trim pattern) ≠ ""

/-- The kind that the identifier is declared for, unless it is blank. -/
def Declares (declaration : IdDeclaration) (kind : String) : Prop :=
  kind ≠ "" ∧ declaration.kind.map trim = some kind

/-- The rule with links to siblings filled in where it has none. -/
structure Completes (declared rule : HeadingRule) : Prop where
  same : rule = { declared with prev := rule.prev, next := rule.next }
  prev : ∀ target, declared.prev = some target → rule.prev = some target
  next : ∀ target, declared.next = some target → rule.next = some target

/-- The rule is that of the declared heading, up to links that are filled in. -/
def Keeps (declaration : HeadingDeclaration) (rule : HeadingRule) : Prop :=
  ∃ declared, HeadingRule.ofDeclaration? declaration = some declared ∧ Completes declared rule

/-- The contract holds what the blueprints declare, which are those for one kind of artifact in
their order. -/
structure Holds (own : List Blueprint) (contract : Contract) : Prop where
  headings : List.Forall₂ Keeps ((headingDeclarations own).filter named) contract.headings
  kinds : ∀ kind, kind ∈ contract.definedIds.keys ↔
    ∃ declaration ∈ idDeclarations own, Declares declaration kind
  rules : ∀ kind rule, contract.definedIds.find? kind = some rule →
    ∃ before declaration behind, idDeclarations own = before ++ declaration :: behind ∧
      Declares declaration kind ∧ (∀ earlier ∈ before, ¬ Declares earlier kind) ∧
      IdRule.ofDeclaration? declaration = some rule
  description : contract.description = own.findSome? fun blueprint => blueprint.header.description

variable {blueprints own : List Blueprint} {rules : List HeadingRule}

/-- Sorting by path leaves blueprints with one path in their order. -/
theorem pathOrder_ordered (blueprints : List Blueprint) :
    PathOrder blueprints (ordered blueprints) where
  perm := ordered_perm blueprints
  sorted := pairwise_ordered blueprints
  stable steps := by
    let artifacts := blueprints.filter fun blueprint => !blueprint.codebase
    let same := fun blueprint : Blueprint => Pathname.steps blueprint.path == steps
    have level : (artifacts.filter same).Pairwise fun first second =>
        Pathname.le first.path second.path = true := by
      apply List.pairwise_of_forall_mem_list
      intro first member second other
      have firstSteps : Pathname.steps first.path = steps := by
        simpa [same] using List.of_mem_filter member
      have secondSteps : Pathname.steps second.path = steps := by
        simpa [same] using List.of_mem_filter other
      rw [Pathname.le, firstSteps, secondSteps]
      exact (Pathname.stepsLe_total steps steps).elim id id
    have kept : (artifacts.filter same).Sublist (ordered blueprints) := by
      apply List.sublist_mergeSort _ _ level List.filter_sublist
      · intro first second third earlier later
        exact Pathname.le_trans earlier later
      · intro first second
        simpa using Pathname.le_total first.path second.path
    have within : (artifacts.filter same).Sublist ((ordered blueprints).filter same) := by
      have filtered := kept.filter same
      simpa only [List.filter_filter, Bool.and_self] using filtered
    exact (within.eq_of_length ((ordered_perm blueprints).filter same).length_eq.symm).symm

theorem isSome_trimmed? (text : Option String) :
    (HeadingRule.trimmed? text).isSome = text.any fun text => trim text ≠ "" := by
  cases text with
  | none => rfl
  | some text =>
    by_cases blank : trim text = "" <;> simp [HeadingRule.trimmed?, Option.filter_some, blank]

theorem isSome_slug (pattern : Option String) :
    (((HeadingRule.trimmed? pattern).map slugify).filter (· ≠ "")).isSome =
      pattern.any fun pattern => slugify (trim pattern) ≠ "" := by
  have none : slugify "" = "" := rfl
  cases pattern with
  | none => rfl
  | some pattern =>
    by_cases blank : trim pattern = ""
    · simp [HeadingRule.trimmed?, Option.filter_some, blank, none]
    · by_cases empty : slugify (trim pattern) = "" <;>
        simp [HeadingRule.trimmed?, Option.filter_some, blank, empty]

theorem isSome_ofDeclaration? (declaration : HeadingDeclaration) :
    (HeadingRule.ofDeclaration? declaration).isSome = named declaration := by
  rw [HeadingRule.ofDeclaration?, Option.isSome_map, HeadingRule.idOf?, Option.isSome_or,
    isSome_trimmed?, isSome_slug, named]

theorem rules_eq_filterMap (blueprints : List Blueprint) :
    (blueprints.flatMap fun blueprint => blueprint.markers.filterMap headingRule?) =
      (headingDeclarations blueprints).filterMap HeadingRule.ofDeclaration? := by
  have each (marker : Marker) : headingRule? marker = (match marker.payload with
      | .heading declaration => some declaration
      | _ => none).bind HeadingRule.ofDeclaration? := by
    rw [headingRule?]
    cases marker.payload <;> rfl
  simp only [headingDeclarations, List.filterMap_flatMap, List.filterMap_filterMap, each]

theorem forall₂_filterMap {read : α → Option β} {wanted : α → Bool}
    (reads : ∀ item, (read item).isSome = wanted item) (items : List α) :
    List.Forall₂ (fun item value => read item = some value) (items.filter wanted)
      (items.filterMap read) := by
  induction items with
  | nil => exact .nil
  | cons item rest ih =>
    have same := reads item
    cases value : read item with
    | none =>
      rw [value] at same
      rwa [List.filter_cons_of_neg (by simp [← same]), List.filterMap_cons_none value]
    | some found =>
      rw [value] at same
      rw [List.filter_cons_of_pos same.symm, List.filterMap_cons_some value]
      exact .cons value ih

theorem forall₂_comp {first : α → β → Prop} {second : β → γ → Prop} {items : List α}
    {values : List β} {results : List γ} (left : List.Forall₂ first items values)
    (right : List.Forall₂ second values results) :
    List.Forall₂ (fun item result => ∃ value, first item value ∧ second value result) items
      results := by
  induction left generalizing results with
  | nil =>
    cases right
    exact .nil
  | cons own _ ih =>
    cases right with
    | cons next more => exact .cons ⟨_, own, next⟩ (ih more)

theorem completes_or (rule : HeadingRule) (before after : Option String) :
    Completes rule { rule with prev := rule.prev.or before, next := rule.next.or after } where
  same := rfl
  prev target declared := by simp [declared]
  next target declared := by simp [declared]

theorem forall₂_linkSiblings (rules : List HeadingRule) :
    List.Forall₂ Completes rules (linkSiblings rules) := by
  rw [List.forall₂_iff_get]
  refine ⟨by simp [linkSiblings], ?_⟩
  intro index bound _
  simp only [linkSiblings, List.get_eq_getElem, List.getElem_mapIdx]
  exact completes_or _ _ _

theorem headings_linked (own : List Blueprint) :
    List.Forall₂ Keeps ((headingDeclarations own).filter named)
      (linkSiblings (own.flatMap fun blueprint => blueprint.markers.filterMap headingRule?)) := by
  rw [rules_eq_filterMap]
  exact forall₂_comp (forall₂_filterMap isSome_ofDeclaration? _) (forall₂_linkSiblings _)

theorem idRules_eq_filterMap (blueprints : List Blueprint) :
    (blueprints.flatMap fun blueprint => blueprint.markers.filterMap idRule?) =
      (idDeclarations blueprints).filterMap IdRule.ofDeclaration? := by
  have each (marker : Marker) : idRule? marker = (match marker.payload with
      | .id declaration => some declaration
      | _ => none).bind IdRule.ofDeclaration? := by
    rw [idRule?]
    cases marker.payload <;> rfl
  simp only [idDeclarations, List.filterMap_flatMap, List.filterMap_filterMap, each]

theorem trimmed?_eq_some_iff {text : Option String} {kept : String} :
    HeadingRule.trimmed? text = some kept ↔ kept ≠ "" ∧ text.map trim = some kept := by
  rw [HeadingRule.trimmed?, Option.filter_eq_some_iff]
  simp [and_comm]

theorem declares_iff {declaration : IdDeclaration} {kind : String} :
    Declares declaration kind ↔
      ∃ rule, IdRule.ofDeclaration? declaration = some rule ∧ rule.kind = kind := by
  rw [Declares, ← trimmed?_eq_some_iff, IdRule.ofDeclaration?]
  cases HeadingRule.trimmed? declaration.kind <;> simp

theorem find?_idRules (own : List Blueprint) (kind : String) :
    (idRules own).find? kind =
      ((idDeclarations own).filterMap IdRule.ofDeclaration?).find? fun rule =>
        kind == rule.kind := by
  have empty : (∅ : KeyMap IdRule).find? kind = none := rfl
  rw [idRules, KeyMap.find?_foldl_insertNew, empty, Option.none_or, idRules_eq_filterMap]

theorem mem_keys_idRules_iff {kind : String} :
    kind ∈ (idRules own).keys ↔ ∃ declaration ∈ idDeclarations own, Declares declaration kind := by
  simp only [KeyMap.mem_keys_iff, ← KeyMap.find?_eq_some_iff, ← Option.isSome_iff_exists,
    find?_idRules, List.find?_isSome, List.mem_filterMap, declares_iff, beq_iff_eq]
  constructor
  · rintro ⟨rule, ⟨declaration, member, made⟩, same⟩
    exact ⟨declaration, member, rule, made, same.symm⟩
  · rintro ⟨declaration, member, rule, made, same⟩
    exact ⟨rule, ⟨declaration, member, made⟩, same.symm⟩

/-- A rule is that of the first declaration of its kind. -/
theorem first_of_find?_idRules {kind : String} {rule : IdRule}
    (found : (idRules own).find? kind = some rule) :
    ∃ before declaration behind, idDeclarations own = before ++ declaration :: behind ∧
      Declares declaration kind ∧ (∀ earlier ∈ before, ¬ Declares earlier kind) ∧
      IdRule.ofDeclaration? declaration = some rule := by
  rw [find?_idRules, List.find?_filterMap, Option.bind_eq_some_iff] at found
  obtain ⟨declaration, first, made⟩ := found
  obtain ⟨wanted, before, behind, whole, earlier⟩ := List.find?_eq_some_iff_append.mp first
  rw [made, Option.any_some, beq_iff_eq] at wanted
  refine ⟨before, declaration, behind, whole, declares_iff.mpr ⟨rule, made, wanted.symm⟩, ?_, made⟩
  intro other member again
  obtain ⟨own, ruled, same⟩ := declares_iff.mp again
  have refused := earlier other member
  simp [ruled, same] at refused

theorem holds_linked (kind : String) (arranged : List Blueprint) :
    Holds (blueprintsOf kind arranged) (linked (Compile.contract kind arranged)) where
  headings := by
    rw [linked, headings_contract]
    exact headings_linked _
  kinds name := mem_keys_idRules_iff
  rules name rule found := first_of_find?_idRules found
  description := rfl

end Compile

/-- The schema has a contract for each kind of artifact that the blueprints describe, and each holds
what they declare for its kind in the order of their paths. -/
structure Schema.Gathers (schema : Schema) (blueprints : List Blueprint) : Prop where
  kinds : ∀ kind, kind ∈ schema.artifacts.keys ↔
    ∃ blueprint ∈ blueprints, blueprint.codebase = false ∧ blueprint.artifactKind = kind
  contracts : ∃ arranged, Compile.PathOrder blueprints arranged ∧
    ∀ kind contract, (kind, contract) ∈ schema.artifacts.entries → contract.name = kind ∧
      Compile.Holds (arranged.filter fun blueprint => blueprint.artifactKind == kind) contract

/-- A compiled schema holds what the blueprints declare: all of it, nothing else, and in order. -/
theorem compile_gathers (blueprints : List Blueprint) (schema : Schema)
    (compiled : Schema.compile blueprints = .ok schema) : schema.Gathers blueprints := by
  obtain ⟨_, rfl⟩ := Compile.compile_eq_ok_iff.mp compiled
  refine ⟨(Compile.covers_linkedSchema blueprints).kinds, Compile.ordered blueprints,
    Compile.pathOrder_ordered blueprints, ?_⟩
  intro kind contract member
  obtain ⟨rfl, _⟩ := Compile.mem_linkedSchema_iff.mp member
  exact ⟨rfl, Compile.holds_linked kind (Compile.ordered blueprints)⟩

/-- Two blueprints for one kind of artifact, the later one first.  Both declare identifiers of one
kind, one of them with a blank kind too, and one has a heading without id and pattern. -/
def scatteredBlueprints : List Blueprint := [
  ⟨"kits/b/PRD.md", [⟨.heading { pattern := some " Goals " }, [], none, 9, 12⟩,
      ⟨.heading { description := some "Goals" }, [], none, 14, 17⟩,
      ⟨.id { kind := some "fr", required := true }, [], none, 19, 23⟩],
    "PRD", { artifact := some "PRD", description := some "Requirements" }, false, []⟩,
  ⟨"kits/a/PRD.md", [⟨.heading { id := some "scope", next := some "goals" }, [], none, 7, 11⟩,
      ⟨.id { kind := some " " }, [], none, 13, 16⟩,
      ⟨.id { kind := some " fr " }, [], none, 18, 21⟩],
    "PRD", { artifact := some "PRD" }, false, []⟩]

/-- They compile, and the schema gathers what both declare. -/
theorem compile_gathers_scattered :
    ∃ schema, Schema.compile scatteredBlueprints = .ok schema ∧
      schema.Gathers scatteredBlueprints := by
  have admissible (kind : String) :
      Compile.Admissible (Compile.declaredRules kind scatteredBlueprints) := by
    by_cases described : kind = "PRD"
    · subst described
      have rules : Compile.declaredRules "PRD" scatteredBlueprints =
          [⟨"goals", 2, some "Goals", none, true, .allowed, .allowed, none, none⟩,
            ⟨"scope", 2, none, none, true, .allowed, .allowed, none, some "goals"⟩] := by
        decide +kernel
      have literal : (TitlePattern.compile? "Goals").isSome = true := by decide +kernel
      rw [rules]
      constructor
      · simp
      · simp
      · simp [← Option.isSome_iff_exists, literal]
      · simp [Compile.Names]
    · have rules : Compile.declaredRules kind scatteredBlueprints = [] := by
        simp [Compile.declaredRules, scatteredBlueprints, Ne.symm described]
      rw [rules]
      exact Compile.admissible_nil
  obtain ⟨schema, compiled⟩ : ∃ schema, Schema.compile scatteredBlueprints = .ok schema :=
    ⟨_, Compile.compile_eq_ok_iff.mpr ⟨admissible, rfl⟩⟩
  exact ⟨schema, compiled, compile_gathers scatteredBlueprints schema compiled⟩

end DocContract
