import DocContract.Proofs.Outline.Soundness
import DocContract.Proofs.Schema.Content

/-!
The links of a compiled schema.  Where a heading declares none, its rule is linked to the ones that
come next to it when documents are checked.
-/

namespace DocContract

open DocContract.Blueprint DocContract.Outline

namespace Compile

/-- The slot that the one of the rule at the position leaves headings to. -/
def nextSlot? (rules : List HeadingRule) (position : Nat) : Option Nat :=
  Hierarchy.nextSibling? ((rules.map Slot.ofRule).map (·.level)) position

/-- The rule at the position has the links that its heading declares.  Where this declares none, the
next rule is that of the slot that comes next, and the previous one that of the slot that it comes
next to; there is no link if there is no such slot. -/
structure LinkedAt (rules : List HeadingRule) (position : Nat) (declaration : HeadingDeclaration)
    (rule : HeadingRule) : Prop where
  declaredPrev : ∀ target, declaration.prev = some target → rule.prev = some target
  declaredNext : ∀ target, declaration.next = some target → rule.next = some target
  prev : declaration.prev = none → ∀ target, rule.prev = some target ↔
    ∃ sibling, nextSlot? rules sibling = some position ∧
      (rules.map (·.id))[sibling]? = some target
  next : declaration.next = none → ∀ target, rule.next = some target ↔
    ∃ sibling, nextSlot? rules position = some sibling ∧
      (rules.map (·.id))[sibling]? = some target

variable {rules : List HeadingRule} {rule : HeadingRule} {declaration : HeadingDeclaration}
variable {position : Nat}

theorem map_level_linkSiblings (rules : List HeadingRule) :
    (linkSiblings rules).map (·.level) = rules.map (·.level) := by
  apply List.ext_getElem
  · simp [linkSiblings]
  · intro index _ _
    simp [linkSiblings]

theorem nextSlot?_linkSiblings (rules : List HeadingRule) (position : Nat) :
    nextSlot? (linkSiblings rules) position =
      Hierarchy.nextSibling? (rules.map (·.level)) position := by
  rw [nextSlot?, map_level_ofRule, map_level_linkSiblings]

theorem links_of_ofDeclaration? (made : HeadingRule.ofDeclaration? declaration = some rule) :
    rule.prev = declaration.prev ∧ rule.next = declaration.next := by
  obtain ⟨id, _, rfl⟩ := Option.map_eq_some_iff.mp made
  exact ⟨rfl, rfl⟩

/-- The grouping of rules by what they stand under links the same ones as the look-ahead for the
next slot. -/
theorem linkedAt_linkSiblings {declared : HeadingRule} (found : rules[position]? = some declared)
    (made : HeadingRule.ofDeclaration? declaration = some declared)
    (linked : (linkSiblings rules)[position]? = some rule) :
    LinkedAt (linkSiblings rules) position declaration rule := by
  obtain ⟨prev, next⟩ := links_of_ofDeclaration? made
  rw [linkSiblings, List.getElem?_mapIdx, found, Option.map_some, Option.some.injEq] at linked
  subst linked
  constructor
  · intro target own
    simp [prev, own]
  · intro target own
    simp [next, own]
  · intro undeclared target
    simp only [prev, undeclared, Option.none_or, Option.bind_eq_some_iff,
      Hierarchy.siblingBefore?_families_eq_some_iff, nextSlot?_linkSiblings, map_id_linkSiblings,
      List.getElem?_map]
  · intro undeclared target
    simp only [next, undeclared, Option.none_or, Option.bind_eq_some_iff,
      Hierarchy.siblingAfter?_families, nextSlot?_linkSiblings, map_id_linkSiblings,
      List.getElem?_map]

theorem exists_getElem?_of_forall₂ {relation : α → β → Prop} {firsts : List α} {seconds : List β}
    {second : β} (related : List.Forall₂ relation firsts seconds)
    (found : seconds[position]? = some second) :
    ∃ first, firsts[position]? = some first ∧ relation first second := by
  induction related generalizing position with
  | nil => cases found
  | @cons first _ _ _ own _ ih =>
    cases position with
    | zero =>
      obtain rfl := Option.some.inj found
      exact ⟨first, rfl, own⟩
    | succ position => exact ih found

/-- Each rule of a contract is that of a declared heading, and linked as this wants it. -/
theorem exists_linkedAt (kind : String) (blueprints : List Blueprint)
    (found : (linked (Compile.contract kind blueprints)).headings[position]? = some rule) :
    ∃ declaration,
      ((headingDeclarations (blueprintsOf kind blueprints)).filter named)[position]? =
        some declaration ∧
      LinkedAt (linked (Compile.contract kind blueprints)).headings position declaration rule := by
  rw [linked, headings_contract, rules_eq_filterMap] at found ⊢
  obtain ⟨declared, own, _⟩ := exists_getElem?_of_forall₂ (forall₂_linkSiblings _) found
  obtain ⟨declaration, source, made⟩ :=
    exists_getElem?_of_forall₂ (forall₂_filterMap isSome_ofDeclaration? _) own
  exact ⟨declaration, source, linkedAt_linkSiblings own made found⟩

end Compile

/-- The rules of every contract are linked as the headings that the blueprints declare for its kind
want it, in the order of the paths of the blueprints. -/
def Schema.LinksSiblings (schema : Schema) (blueprints : List Blueprint) : Prop :=
  ∃ arranged, Compile.PathOrder blueprints arranged ∧
    ∀ kind contract, (kind, contract) ∈ schema.artifacts.entries →
      ∀ position rule, contract.headings[position]? = some rule →
        ∃ declaration, ((Compile.headingDeclarations (arranged.filter fun blueprint =>
            blueprint.artifactKind == kind)).filter Compile.named)[position]? = some declaration ∧
          Compile.LinkedAt contract.headings position declaration rule

/-- Compiling keeps the links that headings declare and makes all others agree with the next slots
that documents are checked with. -/
theorem compile_links_siblings (blueprints : List Blueprint) (schema : Schema)
    (compiled : Schema.compile blueprints = .ok schema) : schema.LinksSiblings blueprints := by
  obtain ⟨_, rfl⟩ := Compile.compile_eq_ok_iff.mp compiled
  refine ⟨Compile.ordered blueprints, Compile.pathOrder_ordered blueprints, ?_⟩
  intro kind contract member position rule found
  obtain ⟨rfl, _⟩ := Compile.mem_linkedSchema_iff.mp member
  exact Compile.exists_linkedAt kind (Compile.ordered blueprints) found

/-- Headings whose levels skip and rise again, the last one with a link of its own. -/
def unevenBlueprint : Blueprint where
  path := "kits/prd/PRD.md"
  markers := [
    ⟨.heading { id := some "preface" }, [], none, 7, 10⟩,
    ⟨.heading { id := some "note", declaredLevel := some 4 }, [], none, 12, 16⟩,
    ⟨.heading { id := some "title", declaredLevel := some 1 }, [], none, 18, 22⟩,
    ⟨.heading { id := some "goals", declaredLevel := some 3 }, [], none, 24, 28⟩,
    ⟨.heading { id := some "detail", declaredLevel := some 4 }, [], none, 30, 34⟩,
    ⟨.heading { id := some "scope", declaredLevel := some 3 }, [], none, 36, 40⟩,
    ⟨.heading { id := some "overview" }, [], none, 42, 45⟩,
    ⟨.heading { id := some "summary", prev := some "title" }, [], none, 47, 51⟩]
  artifactKind := "PRD"
  header := { artifact := some "PRD" }
  codebase := false
  problems := []

/-- Goals and scope are linked though details stand between them; the preface stands under nothing,
so it has no siblings, and the summary keeps its own link. -/
theorem compile_links_uneven :
    ∃ schema contract, Schema.compile [unevenBlueprint] = .ok schema ∧
      schema.LinksSiblings [unevenBlueprint] ∧
      ("PRD", contract) ∈ schema.artifacts.entries ∧
      contract.headings.map (fun rule => (rule.id, rule.prev, rule.next)) =
        [("preface", none, none), ("note", none, none), ("title", none, none),
          ("goals", none, some "scope"), ("detail", none, none), ("scope", some "goals", none),
          ("overview", none, some "summary"), ("summary", some "title", none)] := by
  have admissible :
      Compile.Admissible (unevenBlueprint.markers.filterMap Compile.headingRule?) := by
    have plain : ∀ rule ∈ unevenBlueprint.markers.filterMap Compile.headingRule?,
        rule.pattern = none ∧ rule.next = none ∧ ∀ target ∈ rule.prev, target = "title" := by
      decide +kernel
    have title : ∃ rule ∈ unevenBlueprint.markers.filterMap Compile.headingRule?,
        rule.id = "title" := by
      decide +kernel
    constructor
    · decide +kernel
    · decide +kernel
    · intro rule member pattern found
      rw [(plain rule member).1] at found
      cases found
    · intro rule member target link
      obtain ⟨_, none, own⟩ := plain rule member
      rcases link with prev | next
      · rw [own target prev]
        exact title
      · rw [none] at next
        cases next
  have compiled : Schema.compile [unevenBlueprint] =
      .ok (Compile.linkedSchema [unevenBlueprint]) :=
    (Compile.compile_singleton_iff rfl).mpr ⟨admissible, rfl⟩
  refine ⟨_, Compile.linked (Compile.contract "PRD" [unevenBlueprint]), compiled,
    compile_links_siblings _ _ compiled, ?_, by decide +kernel⟩
  exact Compile.mem_linkedSchema_iff.mpr ⟨rfl, unevenBlueprint, List.mem_cons_self, rfl⟩

end DocContract
