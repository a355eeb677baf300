import DocContract.Proofs.Identifier.Parts
import DocContract.Proofs.Sorted.Entries

namespace DocContract.Identifier

open DocContract.Sorted DocContract.Text

namespace Grammar

/-- The token at the position is nested in the first one.  There is a token between the two, and one
behind. -/
structure NestedAt (grammar : Grammar) (tokens : List String) (position : Nat) : Prop where
  late : 2 ≤ position
  inner : position + 1 < tokens.length
  nested : ∃ outer token, tokens.head? = some outer ∧ tokens[position]? = some token ∧
    grammar.isNested outer token = true

/-- An identifier whose system is the longest registered one that fits, with the tokens behind
that. -/
structure Registered (grammar : Grammar) (registered : List String) (raw : String)
    (parsed : Parsed) (tokens : List String) : Prop where
  named : parsed.system ≠ ""
  longest : LongestFit registered raw parsed.system
  token : ∀ token ∈ tokens, IsToken token
  whole : raw = "-".intercalate ("cpt" :: parsed.system :: tokens)
  /-- A parent is there if a token is nested in the first one, and its kind is that one. -/
  parent : parsed.parent.isSome = true ↔ ∃ position, NestedAt grammar tokens position
  /-- The first token is the kind of the parent; without one, it is the kind itself. -/
  outer : tokens.head? = some ((parsed.parent.map (·.kind)).getD parsed.kind)
  /-- The last such token is the kind. -/
  kind : ∀ position, NestedAt grammar tokens position →
    (∀ later, NestedAt grammar tokens later → later ≤ position) →
    tokens[position]? = some parsed.kind

section

variable {registered others : List String} {kinds : KeySet} {nested : KeyMap KeySet}
variable {grammar : Grammar} {raw system kind inner : String} {parsed : Parsed}
variable {slug innerSlug tokens : List String} {position : Nat}

theorem NestedAt.exists_split (nestedAt : NestedAt grammar (kind :: slug) position) :
    ∃ front token back, slug = front ++ token :: back ∧ position = front.length + 1 ∧
      front ≠ [] ∧ back ≠ [] ∧ grammar.isNested kind token = true := by
  obtain ⟨late, inside, outer, token, first, present, nested⟩ := nestedAt
  obtain rfl : kind = outer := Option.some.inj first
  obtain ⟨offset, rfl⟩ : ∃ offset, position = offset + 1 := ⟨position - 1, by omega⟩
  rw [List.length_cons] at inside
  rw [List.getElem?_cons_succ] at present
  obtain ⟨bound, rfl⟩ := List.getElem?_eq_some_iff.mp present
  have size : (slug.take offset).length = offset := by
    rw [List.length_take]
    omega
  refine ⟨slug.take offset, slug[offset], slug.drop (offset + 1), ?_, ?_, ?_, ?_, nested⟩
  · rw [← List.drop_eq_getElem_cons bound, List.take_append_drop]
  · rw [size]
  · apply List.ne_nil_of_length_pos
    omega
  · apply List.ne_nil_of_length_pos
    rw [List.length_drop]
    omega

theorem nestedAt_composite (nonempty : slug ≠ []) (more : innerSlug ≠ [])
    (nested : grammar.isNested kind inner = true) :
    NestedAt grammar (kind :: (slug ++ inner :: innerSlug)) (slug.length + 1) := by
  have first := List.length_pos_iff.mpr nonempty
  have second := List.length_pos_iff.mpr more
  refine ⟨by omega, ?_, kind, inner, rfl, by simp, nested⟩
  simp only [List.length_cons, List.length_append]
  omega

theorem NestedAt.le_of_last
    (last : ∀ front later back, innerSlug = front ++ later :: back → back ≠ [] →
      grammar.isNested kind later = false)
    (nestedAt : NestedAt grammar (kind :: (slug ++ inner :: innerSlug)) position) :
    position ≤ slug.length + 1 := by
  obtain ⟨front, token, back, shape, rfl, _, behind, nested⟩ := nestedAt.exists_split
  apply Nat.le_of_not_lt
  intro beyond
  rcases List.append_eq_append_iff.mp shape with ⟨between, rfl, rest⟩ | ⟨between, rfl, rest⟩
  · cases between with
    | nil => simp at beyond
    | cons first more =>
      obtain ⟨_, later⟩ := List.cons_eq_cons.mp rest
      rw [last more token back later behind] at nested
      cases nested
  · simp only [List.length_append] at beyond
    omega

theorem Divides.parent_iff {tail : List String} (divides : Divides grammar raw system tail parsed) :
    parsed.parent.isSome = true ↔ ∃ position, NestedAt grammar tail position := by
  cases divides with
  | single kind slug _ flat =>
    refine iff_of_false Bool.false_ne_true ?_
    rintro ⟨position, nestedAt⟩
    obtain ⟨front, token, back, shape, _, ahead, behind, nested⟩ := nestedAt.exists_split
    rw [flat front token back shape ahead behind] at nested
    cases nested
  | composite kind inner slug innerSlug nonempty more nested _ =>
    exact iff_of_true rfl ⟨_, nestedAt_composite nonempty more nested⟩

theorem Divides.outer {tail : List String} (divides : Divides grammar raw system tail parsed) :
    tail.head? = some ((parsed.parent.map (·.kind)).getD parsed.kind) := by
  cases divides <;> rfl

theorem Divides.kind_of_last {tail : List String}
    (divides : Divides grammar raw system tail parsed) (nestedAt : NestedAt grammar tail position)
    (last : ∀ later, NestedAt grammar tail later → later ≤ position) :
    tail[position]? = some parsed.kind := by
  cases divides with
  | single kind slug nonempty flat =>
    obtain ⟨front, token, back, shape, _, ahead, behind, nested⟩ := nestedAt.exists_split
    rw [flat front token back shape ahead behind] at nested
    cases nested
  | composite kind inner slug innerSlug nonempty more nested behind =>
    obtain rfl : position = slug.length + 1 :=
      Nat.le_antisymm (nestedAt.le_of_last behind)
        (last _ (nestedAt_composite nonempty more nested))
    simp

/-- Only which systems are registered counts, and the empty one does not. -/
theorem ofSystems_congr
    (same : ∀ system, system ≠ "" → (system ∈ others ↔ system ∈ registered)) :
    ofSystems others kinds nested = ofSystems registered kinds nested := by
  have sets : KeySet.ofList (others.filter (· ≠ "")) =
      KeySet.ofList (registered.filter (· ≠ "")) := by
    apply KeySet.eq_of_mem_iff
    intro system
    simp only [KeySet.mem_ofList, List.mem_filter, decide_eq_true_eq]
    exact ⟨fun ⟨member, named⟩ => ⟨(same system named).mp member, named⟩,
      fun ⟨member, named⟩ => ⟨(same system named).mpr member, named⟩⟩
  rw [ofSystems, ofSystems, sets]

/-- If a registered system fits, the tokens behind the longest are divided. -/
theorem exists_divides_of_fits (made : grammar = ofSystems registered kinds nested)
    (found : grammar.parse? raw = some parsed) (listed : system ∈ registered)
    (named : system ≠ "") (fits : Fits system raw) :
    parsed.system ≠ "" ∧ LongestFit registered raw parsed.system ∧
      ∃ tokens, (∀ token ∈ tokens, IsToken token) ∧
        raw = "-".intercalate ("cpt" :: parsed.system :: tokens) ∧
        Divides grammar raw parsed.system tokens parsed := by
  obtain ⟨chars, behind, enough, filled, rfl⟩ := parse?_eq_some_iff.mp found
  have some : (grammar.registered? chars).isSome = true :=
    made ▸ isSome_registered? listed named fits behind
  obtain ⟨⟨own, tokens⟩, hit⟩ := Option.isSome_iff_exists.mp some
  obtain ⟨written, longest, tail, located, rfl⟩ := longestFit_of_registered? behind (made ▸ hit)
  have cut : CutsOff (tokensOf chars) own (tokensOf tail) := cutsOff_registered hit
  have resolution : grammar.resolved chars = (own, tokensOf tail) := by
    rw [resolved, hit]
    rfl
  rw [resolution, parsed_system]
  obtain ⟨rfl, _⟩ := tailBehind?_eq_some_iff.mp located
  refine ⟨written, longest, tokensOf tail, ?_, ?_, divides_parsed cut.enough⟩
  · intro token member
    rw [tokensOf_append] at filled
    exact isToken_of_mem_tokensOf (fun empty => filled (List.mem_append_right _ empty)) member
  · rw [intercalate_eq_joinTokens, joinTokens_cons (List.cons_ne_nil _ _),
      joinTokens_cons (tokensOf_ne_nil tail), ← String.toList_inj, behind,
      ← String.toList_ofList (l := tail), joinTokens_tokensOf]
    simp [opening]

end

end Grammar

/-- Where a registered system fits, the longest one is the system, and the tokens behind it have a
parent exactly if one of them can be nested.  The order of the registered systems does not count,
nor does how often one is registered. -/
theorem parse?_registered (registered : List String) (kinds : KeySet) (nested : KeyMap KeySet) :
    (∀ raw parsed, (Grammar.ofSystems registered kinds nested).parse? raw = some parsed →
      (∃ system ∈ registered, system ≠ "" ∧ Fits system raw) →
      ∃ tokens, (Grammar.ofSystems registered kinds nested).Registered registered raw parsed
        tokens) ∧
    ∀ others, (∀ system, system ≠ "" → (system ∈ others ↔ system ∈ registered)) → ∀ raw,
      (Grammar.ofSystems others kinds nested).parse? raw =
        (Grammar.ofSystems registered kinds nested).parse? raw := by
  constructor
  · rintro raw parsed found ⟨system, listed, named, fits⟩
    obtain ⟨written, longest, tokens, token, whole, divides⟩ :=
      Grammar.exists_divides_of_fits rfl found listed named fits
    exact ⟨tokens, written, longest, token, whole, divides.parent_iff, divides.outer,
      fun position => divides.kind_of_last⟩
  · intro others same raw
    rw [Grammar.ofSystems_congr same]

/-- The longer of two systems that fit, and an algorithm within a feature. -/
theorem registered_accountServer :
    (∃ system ∈ ["account", "account-server", "", "account"], system ≠ "" ∧
        Fits system "cpt-account-server-feature-billing-algo-calc") ∧
      (∃ tokens, (featureGrammar ["account", "account-server", "", "account"]).Registered
        ["account", "account-server", "", "account"]
        "cpt-account-server-feature-billing-algo-calc"
        ⟨"cpt-account-server-feature-billing-algo-calc", "account-server", "algo", "calc",
          some ⟨"feature", "billing"⟩⟩ tokens) ∧
      (featureGrammar ["account-server", "account"]).parse?
          "cpt-account-server-feature-billing-algo-calc" =
        some ⟨"cpt-account-server-feature-billing-algo-calc", "account-server", "algo", "calc",
          some ⟨"feature", "billing"⟩⟩ := by
  have found : (featureGrammar ["account", "account-server", "", "account"]).parse?
      "cpt-account-server-feature-billing-algo-calc" =
        some ⟨"cpt-account-server-feature-billing-algo-calc", "account-server", "algo", "calc",
          some ⟨"feature", "billing"⟩⟩ := by
    rw [featureGrammar_accounts]
    decide +kernel
  have fitting : ∃ system ∈ ["account", "account-server", "", "account"], system ≠ "" ∧
      Fits system "cpt-account-server-feature-billing-algo-calc" :=
    ⟨"account", by simp, by decide, "server-feature-billing-algo-calc", by decide, by decide⟩
  obtain ⟨resolves, rearranged⟩ := parse?_registered ["account", "account-server", "", "account"]
    (KeySet.ofList ["feature", "algo"]) (KeyMap.ofList [("feature", KeySet.ofList ["algo"])])
  refine ⟨fitting, resolves _ _ found fitting, ?_⟩
  refine (rearranged ["account-server", "account"] ?_ _).trans found
  intro system named
  simp [named, or_comm]

end DocContract.Identifier
