import DocContract.Proofs.Identifier.Resolution

namespace DocContract.Identifier

open DocContract.Sorted DocContract.Text

/-- The text is `cpt` and three or more tokens, with dashes between them. -/
def IsIdentifier (raw : String) : Prop :=
  ∃ tokens : List String, 3 ≤ tokens.length ∧ (∀ token ∈ tokens, IsToken token) ∧
    raw = "-".intercalate ("cpt" :: tokens)

def Parsed.parts (parsed : Parsed) : List String :=
  let around := match parsed.parent with
    | some parent => [parent.kind, parent.slug]
    | none => []
  ["cpt", parsed.system] ++ around ++ [parsed.kind, parsed.slug]

/-- The parts give the text back, none is empty, and a kind with a parent is nested in that of the
parent. -/
structure Recovers (grammar : Grammar) (raw : String) (parsed : Parsed) : Prop where
  raw_eq : parsed.raw = raw
  joined : "-".intercalate parsed.parts = raw
  filled : ∀ part ∈ parsed.parts, part ≠ ""
  nested : ∀ parent ∈ parsed.parent, grammar.isNested parent.kind parsed.kind = true

namespace Grammar

variable {grammar : Grammar} {raw system : String} {tail tokens : List String} {parsed : Parsed}
variable {chars : List Char}

theorem isToken_of_mem_tokensOf (filled : "" ∉ tokensOf chars) {token : String}
    (member : token ∈ tokensOf chars) : IsToken token := by
  refine ⟨fun empty => filled (empty ▸ member), ?_⟩
  obtain ⟨part, inside, rfl⟩ := List.mem_map.mp member
  rw [String.toList_ofList]
  exact notMem_of_mem_splitAt inside

theorem two_le_length_tokensOf (inner : '-' ∈ chars) : 2 ≤ (tokensOf chars).length := by
  obtain ⟨before, after, rfl⟩ := List.append_of_mem inner
  rw [tokensOf_append, List.length_append]
  have first := List.length_pos_iff.mpr (tokensOf_ne_nil before)
  have second := List.length_pos_iff.mpr (tokensOf_ne_nil after)
  omega

theorem eq_intercalate_iff {raw : String} (nonempty : tokens ≠ []) :
    raw = "-".intercalate ("cpt" :: tokens) ↔
      raw.toList = opening ++ (joinTokens tokens).toList := by
  rw [intercalate_eq_joinTokens, joinTokens_cons nonempty, ← String.toList_inj]
  simp [opening]

/-- The system is made of the tokens in front, and two or more tokens are left. -/
structure CutsOff (tokens : List String) (system : String) (tail : List String) : Prop where
  front : ∃ front, front ≠ [] ∧ system = joinTokens front ∧ tokens = front ++ tail
  enough : 2 ≤ tail.length

theorem cutsOff_registered {split : String × List String}
    (found : grammar.registered? chars = some split) :
    CutsOff (tokensOf chars) split.1 split.2 := by
  obtain ⟨system, _, hit⟩ := List.exists_of_findSome?_eq_some found
  obtain ⟨tail, fits, rfl⟩ := Option.map_eq_some_iff.mp hit
  obtain ⟨rfl, inner⟩ := tailBehind?_eq_some_iff.mp fits
  refine ⟨⟨tokensOf system.toList, tokensOf_ne_nil _, ?_, tokensOf_append _ _⟩,
    two_le_length_tokensOf inner⟩
  rw [joinTokens_tokensOf]

theorem cutsOff_inferred {first : String} {rest : List String} (enough : 2 ≤ rest.length) :
    CutsOff (first :: rest) (grammar.inferred first rest).1 (grammar.inferred first rest).2 := by
  rw [inferred]
  split
  · next front kind back found =>
    obtain ⟨_, rfl, rfl, inner, _⟩ := lastInner?_eq_some_iff.mp found
    have more := List.length_pos_iff.mpr inner
    exact ⟨⟨first :: _, List.cons_ne_nil _ _, rfl, rfl⟩, by rw [List.length_cons]; omega⟩
  · exact ⟨⟨[first], List.cons_ne_nil _ _, by simp, rfl⟩, enough⟩

/-- Whichever way the system is found, no token is lost. -/
theorem cutsOff_resolved (enough : 3 ≤ (tokensOf chars).length) :
    CutsOff (tokensOf chars) (grammar.resolved chars).1 (grammar.resolved chars).2 := by
  rw [resolved]
  cases found : grammar.registered? chars with
  | some split => exact cutsOff_registered found
  | none =>
    obtain ⟨first, rest, tokens⟩ := List.exists_cons_of_ne_nil (tokensOf_ne_nil chars)
    rw [tokens, List.length_cons] at enough
    rw [tokens]
    exact cutsOff_inferred (by omega)

/-- The tokens behind the system are a kind and a slug, or two of each.  The second kind is the last
one nested in the first that has a slug in front and behind. -/
inductive Divides (grammar : Grammar) (raw system : String) : List String → Parsed → Prop where
  | single (kind : String) (slug : List String) (nonempty : slug ≠ [])
      (flat : ∀ front inner back, slug = front ++ inner :: back → front ≠ [] → back ≠ [] →
        grammar.isNested kind inner = false) :
      Divides grammar raw system (kind :: slug) ⟨raw, system, kind, joinTokens slug, none⟩
  | composite (kind inner : String) (slug innerSlug : List String) (nonempty : slug ≠ [])
      (more : innerSlug ≠ []) (nested : grammar.isNested kind inner = true)
      (last : ∀ front later back, innerSlug = front ++ later :: back → back ≠ [] →
        grammar.isNested kind later = false) :
      Divides grammar raw system (kind :: (slug ++ inner :: innerSlug))
        ⟨raw, system, inner, joinTokens innerSlug, some ⟨kind, joinTokens slug⟩⟩

theorem divides_parsed (enough : 2 ≤ tail.length) :
    Divides grammar raw system tail (grammar.parsed raw system tail) := by
  match tail, enough with
  | kind :: first :: more, _ =>
    rw [Grammar.parsed]
    split
    · next outer inner slug found =>
      obtain ⟨front, rfl, rfl, nonempty, nested, last⟩ := lastInner?_eq_some_iff.mp found
      refine .composite kind inner ([first] ++ front) slug (by simp) nonempty nested ?_
      intro ahead later back shape behind
      exact lastInner?_eq_none_iff.mp last ahead later back shape behind
    · next missing =>
      refine .single kind (first :: more) (List.cons_ne_nil _ _) ?_
      intro front inner back shape ahead behind
      obtain ⟨first', others, rfl⟩ := List.exists_cons_of_ne_nil ahead
      obtain ⟨rfl, later⟩ := List.cons_eq_cons.mp shape
      exact lastInner?_eq_none_iff.mp missing others inner back later behind

theorem Divides.raw_eq (divides : Divides grammar raw system tail parsed) : parsed.raw = raw := by
  cases divides <;> rfl

theorem Divides.nested (divides : Divides grammar raw system tail parsed) :
    ∀ parent ∈ parsed.parent, grammar.isNested parent.kind parsed.kind = true := by
  intro parent member
  cases divides with
  | single => cases member
  | composite kind inner slug innerSlug _ _ nested _ =>
    obtain rfl := Option.some.inj member
    exact nested

theorem Divides.joinTokens_parts (divides : Divides grammar raw system tail parsed) :
    joinTokens parsed.parts = joinTokens ("cpt" :: system :: tail) := by
  cases divides with
  | single kind slug nonempty _ =>
    exact (joinTokens_group nonempty ["cpt", system, kind] []).trans (by rw [List.append_nil]; rfl)
  | composite kind inner slug innerSlug nonempty more _ _ =>
    have outer := joinTokens_group nonempty ["cpt", system, kind] [inner, joinTokens innerSlug]
    have behind := joinTokens_group more (["cpt", system, kind] ++ slug ++ [inner]) []
    simp only [List.append_nil, List.append_assoc, List.cons_append, List.nil_append]
      at outer behind
    exact outer.trans behind

theorem Divides.filled (divides : Divides grammar raw system tail parsed) (named : system ≠ "")
    (filled : ∀ token ∈ tail, token ≠ "") : ∀ part ∈ parsed.parts, part ≠ "" := by
  cases divides with
  | single kind slug nonempty _ =>
    obtain ⟨own, rest⟩ := List.forall_mem_cons.mp filled
    simpa [Parsed.parts, named, own] using joinTokens_ne_empty nonempty rest
  | composite kind inner slug innerSlug nonempty more _ _ =>
    simp only [List.forall_mem_cons, List.forall_mem_append] at filled
    obtain ⟨own, ahead, within, behind⟩ := filled
    simp [Parsed.parts, named, own, within, joinTokens_ne_empty nonempty ahead,
      joinTokens_ne_empty more behind]

/-- What an identifier is taken apart into: a system in front, and a division of the tokens behind
it. -/
theorem divides_of_parse? (found : grammar.parse? raw = some parsed) :
    IsIdentifier raw ∧ ∃ front tail, front ≠ [] ∧ parsed.system = joinTokens front ∧
      (∀ token ∈ front ++ tail, IsToken token) ∧
      raw = "-".intercalate ("cpt" :: (front ++ tail)) ∧
      Divides grammar raw parsed.system tail parsed := by
  obtain ⟨chars, behind, enough, filled, rfl⟩ := parse?_eq_some_iff.mp found
  have cut : CutsOff (tokensOf chars) (grammar.resolved chars).1 (grammar.resolved chars).2 :=
    cutsOff_resolved enough
  obtain ⟨front, nonempty, made, tokens⟩ := cut.front
  have token : ∀ token ∈ tokensOf chars, IsToken token := fun _ => isToken_of_mem_tokensOf filled
  have whole : raw = "-".intercalate ("cpt" :: tokensOf chars) := by
    rw [eq_intercalate_iff (tokensOf_ne_nil chars), behind]
    congr 1
    rw [← String.toList_ofList (l := chars), joinTokens_tokensOf]
  refine ⟨⟨tokensOf chars, enough, token, whole⟩, front, (grammar.resolved chars).2, nonempty, ?_,
    tokens ▸ token, tokens ▸ whole, ?_⟩
  · rw [parsed_system, made]
  · rw [parsed_system]
    exact divides_parsed cut.enough

theorem isSome_parse?_of_isIdentifier (identifier : IsIdentifier raw) :
    (grammar.parse? raw).isSome = true := by
  obtain ⟨tokens, enough, token, whole⟩ := identifier
  have nonempty : tokens ≠ [] := by
    rintro rfl
    simp at enough
  have cut : tokensOf (joinTokens tokens).toList = tokens := by
    rw [joinTokens, String.toList_ofList]
    exact tokensOf_joinWith nonempty fun part member => (token part member).2
  refine Option.isSome_iff_exists.mpr ⟨_, parse?_eq_some_iff.mpr
    ⟨_, (eq_intercalate_iff nonempty).mp whole, ?_, ?_, rfl⟩⟩
  · rwa [cut]
  · rw [cut]
    exact fun empty => (token "" empty).1 rfl

end Grammar

/-- With any grammar, identifiers are taken apart and no other texts, and the parts of one, joined
again, are the identifier. -/
theorem parse?_recovers (grammar : Grammar) (raw : String) :
    ((grammar.parse? raw).isSome = true ↔ IsIdentifier raw) ∧
      ∀ parsed, grammar.parse? raw = some parsed → Recovers grammar raw parsed := by
  constructor
  · refine ⟨fun accepted => ?_, Grammar.isSome_parse?_of_isIdentifier⟩
    obtain ⟨parsed, found⟩ := Option.isSome_iff_exists.mp accepted
    exact (Grammar.divides_of_parse? found).1
  · intro parsed found
    obtain ⟨_, front, tail, nonempty, named, token, whole, divides⟩ :=
      Grammar.divides_of_parse? found
    have filled : ∀ token ∈ front ++ tail, token ≠ "" := fun part member => (token part member).1
    rw [List.forall_mem_append] at filled
    refine ⟨divides.raw_eq, ?_, ?_, divides.nested⟩
    · have parts := divides.joinTokens_parts
      rw [named] at parts
      have grouped := Grammar.joinTokens_group nonempty ["cpt"] tail
      rw [Grammar.intercalate_eq_joinTokens, parts, whole, Grammar.intercalate_eq_joinTokens]
      exact grouped
    · refine divides.filled ?_ filled.2
      rw [named]
      exact Grammar.joinTokens_ne_empty nonempty filled.1

theorem featureGrammar_accounts :
    featureGrammar ["account", "account-server", "", "account"] =
      ⟨["account-server", "account"], KeySet.ofList ["feature", "algo"],
        KeyMap.ofList [("feature", KeySet.ofList ["algo"])]⟩ := by
  have members : (KeySet.ofList
      (["account", "account-server", "", "account"].filter (· ≠ ""))).members =
        ["account", "account-server"] := by
    decide +kernel
  have longer : "account".length < "account-server".length := by decide
  rw [featureGrammar, Grammar.ofSystems, members]
  simp [List.mergeSort, List.MergeSort.Internal.splitInTwo, Nat.not_le.mpr longer]

/-- A registered system with a dash, and an algorithm within a feature. -/
theorem recovers_accountServer :
    IsIdentifier "cpt-account-server-feature-billing-algo-calc" ∧
      (featureGrammar ["account", "account-server", "", "account"]).parse?
          "cpt-account-server-feature-billing-algo-calc" =
        some ⟨"cpt-account-server-feature-billing-algo-calc", "account-server", "algo", "calc",
          some ⟨"feature", "billing"⟩⟩ ∧
      Recovers (featureGrammar ["account", "account-server", "", "account"])
        "cpt-account-server-feature-billing-algo-calc"
        ⟨"cpt-account-server-feature-billing-algo-calc", "account-server", "algo", "calc",
          some ⟨"feature", "billing"⟩⟩ := by
  obtain ⟨accepts, recovers⟩ := parse?_recovers
    (featureGrammar ["account", "account-server", "", "account"])
    "cpt-account-server-feature-billing-algo-calc"
  have found : (featureGrammar ["account", "account-server", "", "account"]).parse?
      "cpt-account-server-feature-billing-algo-calc" =
        some ⟨"cpt-account-server-feature-billing-algo-calc", "account-server", "algo", "calc",
          some ⟨"feature", "billing"⟩⟩ := by
    rw [featureGrammar_accounts]
    decide +kernel
  exact ⟨accepts.mp (by rw [found]; rfl), found, recovers _ found⟩

end DocContract.Identifier
