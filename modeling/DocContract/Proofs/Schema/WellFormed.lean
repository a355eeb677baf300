import DocContract.Outline.Slot
import DocContract.Proofs.Schema.Acceptance
import DocContract.Proofs.Text.Trim

namespace DocContract

open DocContract.Sorted DocContract.Text

/-- A contract that documents of the kind can be validated against. -/
structure Contract.WellFormed (kind : String) (contract : Contract) : Prop where
  name : contract.name = kind
  named : ∀ rule ∈ contract.headings, rule.id ≠ ""
  distinct : (contract.headings.map (·.id)).Nodup
  linked : ∀ rule ∈ contract.headings, ∀ target,
    rule.prev = some target ∨ rule.next = some target → Compile.Names contract.headings target
  keyed : ∀ key rule, (key, rule) ∈ contract.definedIds.entries →
    key = rule.kind ∧ key ≠ "" ∧ trim key = key
  matchable : ∀ rule ∈ contract.headings, (Outline.Slot.ofRule rule).matcher ≠ .never

/-- A schema with well-formed contracts under their kinds and with their digest. -/
structure Schema.WellFormed (schema : Schema) : Prop where
  contracts : ∀ kind contract, (kind, contract) ∈ schema.artifacts.entries →
    contract.WellFormed kind
  digest : schema.digest = contractsDigest schema.artifacts

/-- The schema has a contract for each kind of artifact that blueprints describe, with all headings
that they declare. -/
structure Schema.Covers (schema : Schema) (blueprints : List Blueprint) : Prop where
  kinds : ∀ kind, kind ∈ schema.artifacts.keys ↔
    ∃ blueprint ∈ blueprints, blueprint.codebase = false ∧ blueprint.artifactKind = kind
  headings : ∀ kind contract, (kind, contract) ∈ schema.artifacts.entries →
    (contract.headings.map (·.id)).Perm ((Compile.declaredRules kind blueprints).map (·.id))

namespace Compile

theorem eq_trim_of_trimmed? {text : Option String} {trimmed : String}
    (found : HeadingRule.trimmed? text = some trimmed) : trimmed ≠ "" ∧ trim trimmed = trimmed := by
  obtain ⟨kept, nonempty⟩ := Option.filter_eq_some_iff.mp found
  obtain ⟨whole, _, rfl⟩ := Option.map_eq_some_iff.mp kept
  exact ⟨by simpa using nonempty, trim_trim whole⟩

theorem idOf?_ne_empty {declaration : Blueprint.HeadingDeclaration} {id : String}
    (found : HeadingRule.idOf? declaration = some id) : id ≠ "" := by
  rcases Option.or_eq_some_iff.mp found with declared | ⟨_, derived⟩
  · exact (eq_trim_of_trimmed? declared).1
  · simpa using (Option.filter_eq_some_iff.mp derived).2

theorem id_ne_empty {marker : Blueprint.Marker} {rule : HeadingRule}
    (declared : headingRule? marker = some rule) : rule.id ≠ "" := by
  rw [headingRule?] at declared
  split at declared
  · obtain ⟨id, found, rfl⟩ := Option.map_eq_some_iff.mp declared
    exact idOf?_ne_empty found
  · cases declared

theorem kind_trimmed {marker : Blueprint.Marker} {rule : IdRule}
    (declared : idRule? marker = some rule) : rule.kind ≠ "" ∧ trim rule.kind = rule.kind := by
  rw [idRule?] at declared
  split at declared
  · obtain ⟨kind, found, rfl⟩ := Option.map_eq_some_iff.mp declared
    exact eq_trim_of_trimmed? found
  · cases declared

/-- Rules for identifiers stand under their own kinds. -/
theorem mem_idRules {blueprints : List Blueprint} {key : String} {rule : IdRule}
    (member : (key, rule) ∈ (idRules blueprints).entries) :
    key = rule.kind ∧ key ≠ "" ∧ trim key = key := by
  rcases KeyMap.mem_entries_foldl_insertNew member with ⟨declared, inside, same⟩ | absent
  · cases same
    obtain ⟨blueprint, _, marked⟩ := List.mem_flatMap.mp inside
    obtain ⟨marker, _, found⟩ := List.mem_filterMap.mp marked
    exact ⟨rfl, kind_trimmed found⟩
  · exact absurd absent List.not_mem_nil

variable {rules : List HeadingRule} {rule : HeadingRule}

theorem names_of_index {index : Option Nat} {target : String}
    (found : (index.bind fun index => rules[index]?.map (·.id)) = some target) :
    Names rules target := by
  obtain ⟨position, _, located⟩ := Option.bind_eq_some_iff.mp found
  obtain ⟨rule, present, same⟩ := Option.map_eq_some_iff.mp located
  exact ⟨rule, List.mem_of_getElem? present, same⟩

/-- Linking keeps everything of a rule but links that it does not declare; these name siblings. -/
theorem mem_linkSiblings (member : rule ∈ linkSiblings rules) :
    ∃ declared ∈ rules, rule.id = declared.id ∧ rule.pattern = declared.pattern ∧
      ∀ target, rule.prev = some target ∨ rule.next = some target →
        (declared.prev = some target ∨ declared.next = some target) ∨ Names rules target := by
  obtain ⟨index, bound, rfl⟩ := List.mem_mapIdx.mp member
  refine ⟨rules[index], List.getElem_mem bound, rfl, rfl, ?_⟩
  rintro target (link | link)
  · rcases Option.or_eq_some_iff.mp link with own | ⟨_, filled⟩
    · exact .inl (.inl own)
    · exact .inr (names_of_index filled)
  · rcases Option.or_eq_some_iff.mp link with own | ⟨_, filled⟩
    · exact .inl (.inr own)
    · exact .inr (names_of_index filled)

theorem map_id_linkSiblings (rules : List HeadingRule) :
    (linkSiblings rules).map (·.id) = rules.map (·.id) := by
  apply List.ext_getElem
  · simp [linkSiblings]
  · intro index _ _
    simp [linkSiblings]

theorem names_linkSiblings {target : String} (named : Names rules target) :
    Names (linkSiblings rules) target := by
  have kept : target ∈ (linkSiblings rules).map (·.id) := by
    rw [map_id_linkSiblings]
    exact List.mem_map.mpr named
  exact List.mem_map.mp kept

theorem ofPattern_ne_never {pattern : Option String}
    (readable : ∀ text, pattern = some text →
      ∃ compiled, TitlePattern.compile? text = some compiled) :
    Outline.Matcher.ofPattern pattern ≠ .never := by
  cases pattern with
  | none => simp [Outline.Matcher.ofPattern]
  | some text =>
    obtain ⟨compiled, read⟩ := readable text rfl
    simp [Outline.Matcher.ofPattern, read]

variable {blueprints : List Blueprint} {kind : String}

theorem id_ne_empty_of_mem (member : rule ∈ (Compile.contract kind blueprints).headings) :
    rule.id ≠ "" := by
  rw [headings_contract] at member
  obtain ⟨blueprint, _, marked⟩ := List.mem_flatMap.mp member
  obtain ⟨marker, _, declared⟩ := List.mem_filterMap.mp marked
  exact id_ne_empty declared

theorem wellFormed_linked (admissible : Admissible (Compile.contract kind blueprints).headings) :
    (linked (Compile.contract kind blueprints)).WellFormed kind where
  name := rfl
  named rule member := by
    obtain ⟨declared, inside, same, _⟩ := mem_linkSiblings member
    exact same ▸ id_ne_empty_of_mem inside
  distinct := by
    rw [linked, map_id_linkSiblings]
    exact admissible.distinct
  linked rule member target link := by
    obtain ⟨declared, inside, _, _, links⟩ := mem_linkSiblings member
    rcases links target link with own | sibling
    · exact names_linkSiblings (admissible.linked declared inside target own)
    · exact names_linkSiblings sibling
  keyed key rule member := mem_idRules member
  matchable rule member := by
    obtain ⟨declared, inside, _, same, _⟩ := mem_linkSiblings member
    rw [Outline.Slot.ofRule, same]
    exact ofPattern_ne_never (admissible.readable declared inside)

theorem mem_linkedSchema_iff {contract : Contract} :
    (kind, contract) ∈ (linkedSchema blueprints).artifacts.entries ↔
      contract = linked (Compile.contract kind blueprints) ∧
        ∃ blueprint ∈ blueprints, blueprint.artifactKind = kind := by
  rw [linkedSchema, Schema.ofContracts, KeyMap.mem_entries_mapValues_iff]
  simp only [mem_contracts_iff]
  constructor
  · rintro ⟨_, ⟨rfl, described⟩, rfl⟩
    exact ⟨rfl, described⟩
  · rintro ⟨rfl, described⟩
    exact ⟨_, ⟨rfl, described⟩, rfl⟩

theorem wellFormed_linkedSchema
    (admissible : ∀ kind, Admissible (declaredRules kind blueprints)) :
    (linkedSchema (ordered blueprints)).WellFormed where
  contracts kind contract member := by
    obtain ⟨rfl, _⟩ := mem_linkedSchema_iff.mp member
    exact wellFormed_linked ((admissible kind).of_perm (headings_perm kind blueprints).symm)
  digest := rfl

theorem covers_linkedSchema (blueprints : List Blueprint) :
    (linkedSchema (ordered blueprints)).Covers blueprints where
  kinds kind := by
    simp only [KeyMap.mem_keys_iff, mem_linkedSchema_iff, exists_eq_left, mem_ordered_iff,
      and_assoc]
  headings kind contract member := by
    obtain ⟨rfl, _⟩ := mem_linkedSchema_iff.mp member
    rw [linked, map_id_linkSiblings]
    exact (headings_perm kind blueprints).map _

end Compile

/-- Compiling succeeds exactly if, for every kind of artifact, the rules that its headings become
are admissible; the schema is then well-formed and leaves out no kind and no heading. -/
theorem compile_ok_iff_admissible (blueprints : List Blueprint) :
    ((∃ schema, Schema.compile blueprints = .ok schema) ↔
        ∀ kind, Compile.Admissible (Compile.declaredRules kind blueprints)) ∧
      ∀ schema, Schema.compile blueprints = .ok schema →
        schema.WellFormed ∧ schema.Covers blueprints := by
  refine ⟨?_, ?_⟩
  · simp only [Compile.compile_eq_ok_iff, exists_and_left, exists_eq, and_true]
  · intro schema compiled
    obtain ⟨admissible, rfl⟩ := Compile.compile_eq_ok_iff.mp compiled
    exact ⟨Compile.wellFormed_linkedSchema admissible, Compile.covers_linkedSchema blueprints⟩

/-- Two blueprints for one kind of artifact, the later one first, and one of the code base with a
heading of a level that there is not. -/
def sharedKind : List Blueprint := [
  ⟨"kits/prd/b.md", [⟨.heading { id := some " goals ", prev := some "scope" }, [], none, 9, 13⟩,
      ⟨.id { kind := some "fr\n" }, [], none, 15, 18⟩],
    "PRD", { artifact := some "PRD" }, false, []⟩,
  ⟨"kits/prd/a.md", [⟨.heading { pattern := some "1. Scope?" }, [], none, 7, 11⟩,
      ⟨.heading { id := some "scope", pattern := some "Scope" }, [], none, 13, 17⟩],
    "PRD", { artifact := some "PRD" }, false, []⟩,
  ⟨"kits/code.md", [⟨.heading { id := some "scope", declaredLevel := some 9 }, [], none, 1, 5⟩],
    "code", {}, true, []⟩]

/-- The headings of both blueprints have ids of their own, and the link goes from one to the other.
-/
theorem compile_ok_sharedKind :
    (∀ kind, Compile.Admissible (Compile.declaredRules kind sharedKind)) ∧
      ∃ schema, Schema.compile sharedKind = .ok schema ∧ schema.WellFormed ∧
        schema.Covers sharedKind := by
  have admissible (kind : String) : Compile.Admissible (Compile.declaredRules kind sharedKind) := by
    by_cases described : kind = "PRD"
    · subst described
      have rules : Compile.declaredRules "PRD" sharedKind =
          [⟨"goals", 2, none, none, true, .allowed, .allowed, some "scope", none⟩,
            ⟨"1-scope", 2, some "1. Scope?", none, true, .allowed, .allowed, none, none⟩,
            ⟨"scope", 2, some "Scope", none, true, .allowed, .allowed, none, none⟩] := by
        decide +kernel
      have expression : (TitlePattern.compile? "1. Scope?").isSome = true := by decide +kernel
      have literal : (TitlePattern.compile? "Scope").isSome = true := by decide +kernel
      rw [rules]
      constructor
      · simp
      · simp
      · simp [← Option.isSome_iff_exists, expression, literal]
      · simp [Compile.Names]
    · have rules : Compile.declaredRules kind sharedKind = [] := by
        simp [Compile.declaredRules, sharedKind, Ne.symm described]
      rw [rules]
      constructor <;> simp
  obtain ⟨schema, compiled⟩ := (compile_ok_iff_admissible sharedKind).1.mpr admissible
  exact ⟨admissible, schema, compiled, (compile_ok_iff_admissible sharedKind).2 schema compiled⟩

end DocContract
