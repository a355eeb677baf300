import DocContract.Proofs.Schema.Arrangement
import DocContract.Proofs.Sorted.Entries

namespace DocContract.Compile

open DocContract.Sorted

/-- The rules that the headings declared for a kind of artifact become, in the order in which the
blueprints are given. -/
def declaredRules (kind : String) (blueprints : List Blueprint) : List HeadingRule :=
  (blueprints.filter fun blueprint => !blueprint.codebase && blueprint.artifactKind == kind).flatMap
    fun blueprint => blueprint.markers.filterMap headingRule?

/-- The text names one of the rules. -/
def Names (rules : List HeadingRule) (target : String) : Prop :=
  ∃ rule ∈ rules, rule.id = target

/-- Rules that can stand together in the contract of one kind of artifact. -/
structure Admissible (rules : List HeadingRule) : Prop where
  distinct : (rules.map (·.id)).Nodup
  leveled : ∀ rule ∈ rules, 1 ≤ rule.level ∧ rule.level ≤ 6
  readable : ∀ rule ∈ rules, ∀ pattern, rule.pattern = some pattern →
    ∃ compiled, TitlePattern.compile? pattern = some compiled
  linked : ∀ rule ∈ rules, ∀ target, rule.prev = some target ∨ rule.next = some target →
    Names rules target

section

variable {rules others : List HeadingRule} {entries : List HeadingEntry}
variable {blueprints : List Blueprint} {contract : Contract} {rule : HeadingRule}

theorem names_congr (perm : rules.Perm others) (target : String) :
    Names rules target ↔ Names others target := by
  simp only [Names, perm.mem_iff]

/-- The order of the rules does not matter. -/
theorem Admissible.of_perm (admissible : Admissible rules) (perm : rules.Perm others) :
    Admissible others where
  distinct := (perm.map _).nodup_iff.mp admissible.distinct
  leveled rule member := admissible.leveled rule (perm.mem_iff.mpr member)
  readable rule member := admissible.readable rule (perm.mem_iff.mpr member)
  linked rule member target link :=
    (names_congr perm target).mp (admissible.linked rule (perm.mem_iff.mpr member) target link)

theorem admissible_congr (perm : rules.Perm others) : Admissible rules ↔ Admissible others :=
  ⟨fun admissible => admissible.of_perm perm, fun admissible => admissible.of_perm perm.symm⟩

theorem firstClash?_eq_none_iff {seen : List (String × String)} :
    firstClash? seen entries = none ↔
      (entries.map HeadingEntry.key).Nodup ∧ ∀ entry ∈ entries, entry.key ∉ seen := by
  induction entries generalizing seen with
  | nil => simp [firstClash?]
  | cons entry rest ih =>
    rw [firstClash?]
    by_cases repeated : entry.key ∈ seen
    · simp [repeated]
    · rw [if_neg (by simpa using repeated), ih, List.map_cons, List.nodup_cons]
      constructor
      · rintro ⟨distinct, fresh⟩
        refine ⟨⟨?_, distinct⟩, ?_⟩
        · intro again
          obtain ⟨later, member, same⟩ := List.mem_map.mp again
          exact fresh later member (same ▸ List.mem_cons_self)
        · intro later member
          rcases List.mem_cons.mp member with rfl | behind
          · exact repeated
          · exact fun earlier => fresh later behind (List.mem_cons_of_mem _ earlier)
      · rintro ⟨⟨alone, distinct⟩, fresh⟩
        refine ⟨distinct, ?_⟩
        intro later member again
        rcases List.mem_cons.mp again with same | earlier
        · exact alone (List.mem_map.mpr ⟨later, member, same⟩)
        · exact fresh later (List.mem_cons_of_mem _ member) earlier

theorem nodup_keys_iff :
    (entries.map HeadingEntry.key).Nodup ↔
      ∀ kind, ((entries.filter fun entry => entry.artifact == kind).map (·.rule.id)).Nodup := by
  simp only [List.Nodup, List.pairwise_map, List.pairwise_filter]
  simp only [List.pairwise_iff_forall_sublist, HeadingEntry.key, ne_eq, Prod.mk.injEq, not_and,
    beq_iff_eq]
  constructor
  · intro distinct kind first second inside own other
    exact distinct inside (own.trans other.symm)
  · intro distinct first second inside same
    exact distinct first.artifact inside rfl same.symm

theorem rules_headingEntries (blueprints : List Blueprint) :
    (headingEntries blueprints).map (·.rule) =
      blueprints.flatMap fun blueprint => blueprint.markers.filterMap headingRule? := by
  simp [headingEntries, List.map_flatMap, List.map_filterMap, Function.comp_def]

theorem headingEntries_cons (blueprint : Blueprint) (rest : List Blueprint) :
    headingEntries (blueprint :: rest) = headingEntries [blueprint] ++ headingEntries rest := by
  simp [headingEntries]

theorem artifact_of_mem {blueprint : Blueprint} {entry : HeadingEntry}
    (member : entry ∈ headingEntries [blueprint]) : entry.artifact = blueprint.artifactKind := by
  simp only [headingEntries, List.flatMap_cons, List.flatMap_nil, List.append_nil,
    List.mem_filterMap, Option.map_eq_some_iff] at member
  obtain ⟨_, _, _, _, rfl⟩ := member
  rfl

theorem filter_headingEntries (kind : String) (blueprints : List Blueprint) :
    (headingEntries blueprints).filter (fun entry => entry.artifact == kind) =
      headingEntries (blueprintsOf kind blueprints) := by
  induction blueprints with
  | nil => rfl
  | cons blueprint rest ih =>
    rw [headingEntries_cons, List.filter_append, ih]
    by_cases same : blueprint.artifactKind = kind
    · have chosen : blueprintsOf kind (blueprint :: rest) = blueprint :: blueprintsOf kind rest :=
        List.filter_cons_of_pos (by simpa using same)
      rw [chosen, headingEntries_cons blueprint (blueprintsOf kind rest),
        List.filter_eq_self.mpr fun entry member => by simp [artifact_of_mem member, same]]
    · have passed : blueprintsOf kind (blueprint :: rest) = blueprintsOf kind rest :=
        List.filter_cons_of_neg (by simpa using same)
      rw [passed, List.filter_eq_nil_iff.mpr fun entry member => by
        simp [artifact_of_mem member, same]]
      rfl

theorem headings_contract (kind : String) (blueprints : List Blueprint) :
    (Compile.contract kind blueprints).headings =
      (blueprintsOf kind blueprints).flatMap fun blueprint =>
        blueprint.markers.filterMap headingRule? :=
  rules_headingEntries (blueprintsOf kind blueprints)

/-- The contract for a kind of artifact has the rules declared for it. -/
theorem headings_perm (kind : String) (blueprints : List Blueprint) :
    (Compile.contract kind (ordered blueprints)).headings.Perm (declaredRules kind blueprints) := by
  rw [headings_contract, declaredRules]
  apply List.Perm.flatMap_right
  have kept := (ordered_perm blueprints).filter fun blueprint => blueprint.artifactKind == kind
  rw [List.filter_filter] at kept
  simpa only [blueprintsOf, Bool.and_comm] using kept

theorem noClash_iff :
    firstClash? [] (headingEntries blueprints) = none ↔
      ∀ kind, ((Compile.contract kind blueprints).headings.map (·.id)).Nodup := by
  rw [firstClash?_eq_none_iff, nodup_keys_iff]
  simp [filter_headingEntries, Compile.contract, Function.comp_def]

theorem linkFault?_eq_none_iff {field : String} {link : Option String} :
    linkFault? contract rule field link = none ↔
      ∀ target, link = some target → Names contract.headings target := by
  cases link with
  | none => simp [linkFault?]
  | some target => simp [linkFault?, Names]

theorem headingFault?_eq_none_iff :
    headingFault? contract rule = none ↔
      (1 ≤ rule.level ∧ rule.level ≤ 6) ∧
        (∀ pattern, rule.pattern = some pattern →
          ∃ compiled, TitlePattern.compile? pattern = some compiled) ∧
        ∀ target, rule.prev = some target ∨ rule.next = some target →
          Names contract.headings target := by
  rw [headingFault?]
  by_cases outside : rule.level < 1 ∨ 6 < rule.level
  · have notInside : ¬ (1 ≤ rule.level ∧ rule.level ≤ 6) := by
      rintro ⟨least, most⟩
      rcases outside with low | high
      · exact UInt8.not_le.mpr low least
      · exact UInt8.not_le.mpr high most
    rw [if_pos outside]
    simp [notInside]
  · have inside : 1 ≤ rule.level ∧ rule.level ≤ 6 := by
      simpa only [not_or, UInt8.not_lt] using outside
    rw [if_neg outside, Option.or_eq_none_iff, Option.or_eq_none_iff, linkFault?_eq_none_iff,
      linkFault?_eq_none_iff]
    simp only [inside, and_self, true_and, or_imp, forall_and, and_assoc]
    apply and_congr_left'
    cases rule.pattern with
    | none => simp
    | some pattern => simp [Option.isSome_iff_exists]

theorem contractFault?_eq_none_iff :
    contractFault? contract = none ↔
      ∀ rule ∈ contract.headings, headingFault? contract rule = none :=
  List.findSome?_eq_none_iff

/-- A contract has neither clashes nor faults if its headings are admissible. -/
theorem admissible_headings_iff :
    Admissible contract.headings ↔
      (contract.headings.map (·.id)).Nodup ∧ contractFault? contract = none := by
  simp only [contractFault?_eq_none_iff, headingFault?_eq_none_iff]
  constructor
  · intro admissible
    exact ⟨admissible.distinct, fun rule member => ⟨admissible.leveled rule member,
      admissible.readable rule member, admissible.linked rule member⟩⟩
  · rintro ⟨distinct, sound⟩
    exact ⟨distinct, fun rule member => (sound rule member).1,
      fun rule member => (sound rule member).2.1, fun rule member => (sound rule member).2.2⟩

theorem mem_contracts_iff {kind : String} :
    (kind, contract) ∈ (contracts blueprints).entries ↔
      contract = Compile.contract kind blueprints ∧
        ∃ blueprint ∈ blueprints, blueprint.artifactKind = kind := by
  have only (found : Contract) (member : (kind, found) ∈ (contracts blueprints).entries) :
      found = Compile.contract kind blueprints := by
    obtain ⟨_, _, same⟩ := List.mem_map.mp (KeyMap.mem_entries_ofList member)
    cases same
    rfl
  have kinds : kind ∈ (contracts blueprints).keys ↔
      ∃ blueprint ∈ blueprints, blueprint.artifactKind = kind := by
    simp [contracts, KeyMap.mem_keys_ofList]
  constructor
  · intro member
    exact ⟨only contract member, kinds.mp (KeyMap.mem_keys_iff.mpr ⟨contract, member⟩)⟩
  · rintro ⟨rfl, described⟩
    obtain ⟨found, member⟩ := KeyMap.mem_keys_iff.mp (kinds.mpr described)
    exact only found member ▸ member

/-- A kind of artifact that no blueprint describes has nothing wrong with it. -/
theorem noFault_iff :
    (contracts blueprints).values.findSome? contractFault? = none ↔
      ∀ kind, contractFault? (Compile.contract kind blueprints) = none := by
  rw [List.findSome?_eq_none_iff]
  constructor
  · intro sound kind
    by_cases described : ∃ blueprint ∈ blueprints, blueprint.artifactKind = kind
    · exact sound _ (KeyMap.mem_values_iff.mpr ⟨kind, mem_contracts_iff.mpr ⟨rfl, described⟩⟩)
    · have empty : blueprintsOf kind blueprints = [] := by
        rw [blueprintsOf, List.filter_eq_nil_iff]
        intro blueprint member same
        exact described ⟨blueprint, member, by simpa using same⟩
      simp [contractFault?, headings_contract, empty]
  · intro sound contract member
    obtain ⟨kind, inside⟩ := KeyMap.mem_values_iff.mp member
    exact (mem_contracts_iff.mp inside).1 ▸ sound kind

/-- The schema that the contracts of the blueprints make. -/
def linkedSchema (blueprints : List Blueprint) : Schema :=
  Schema.ofContracts ((contracts blueprints).mapValues fun _ contract => linked contract)

/-- Compiling succeeds if the rules of every kind of artifact are admissible. -/
theorem compile_eq_ok_iff {schema : Schema} :
    Schema.compile blueprints = .ok schema ↔
      (∀ kind, Admissible (declaredRules kind blueprints)) ∧
        schema = linkedSchema (ordered blueprints) := by
  have sound : (∀ kind, Admissible (declaredRules kind blueprints)) ↔
      firstClash? [] (headingEntries (ordered blueprints)) = none ∧
        (contracts (ordered blueprints)).values.findSome? contractFault? = none := by
    rw [noClash_iff, noFault_iff, ← forall_and]
    exact forall_congr' fun kind =>
      (admissible_congr (headings_perm kind blueprints)).symm.trans admissible_headings_iff
  rw [sound, Schema.compile]
  cases clash : firstClash? [] (headingEntries (ordered blueprints)) with
  | some entry => simp
  | none =>
    cases faulty : (contracts (ordered blueprints)).values.findSome? contractFault? with
    | some fault => simp [faulty]
    | none => simp [faulty, linkedSchema, eq_comm]

theorem admissible_nil : Admissible [] := by
  constructor <;> simp

theorem declaredRules_singleton {blueprint : Blueprint} (declares : blueprint.codebase = false)
    (kind : String) :
    declaredRules kind [blueprint] =
      if blueprint.artifactKind = kind then blueprint.markers.filterMap headingRule? else [] := by
  by_cases own : blueprint.artifactKind = kind <;> simp [declaredRules, declares, own]

theorem compile_singleton_iff {blueprint : Blueprint} {schema : Schema}
    (declares : blueprint.codebase = false) :
    Schema.compile [blueprint] = .ok schema ↔
      Admissible (blueprint.markers.filterMap headingRule?) ∧
        schema = linkedSchema [blueprint] := by
  have kept : ordered [blueprint] = [blueprint] := by simp [ordered, declares]
  rw [compile_eq_ok_iff, kept]
  refine and_congr_left' ⟨?_, ?_⟩
  · intro all
    have own := all blueprint.artifactKind
    rwa [declaredRules_singleton declares, if_pos rfl] at own
  · intro admissible kind
    rw [declaredRules_singleton declares]
    split
    · exact admissible
    · exact admissible_nil

end

end DocContract.Compile
