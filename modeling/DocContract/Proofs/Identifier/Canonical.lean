import DocContract.Proofs.Identifier.Systems

/-!
Canonical identifiers decode to the parts that they are made of, whether their system is registered
or inferred.  A kind has to be a single token for that.
-/

namespace DocContract.Identifier

open DocContract.Sorted DocContract.Text

/-- A text that can stand between two dashes of an identifier. -/
def IsToken (text : String) : Prop :=
  text ≠ "" ∧ '-' ∉ text.toList

instance (text : String) : Decidable (IsToken text) :=
  inferInstanceAs (Decidable (text ≠ "" ∧ '-' ∉ text.toList))

/-- The identifier of an element of the kind. -/
def canonicalId (system kind slug : String) : String :=
  "cpt-" ++ system ++ "-" ++ kind ++ "-" ++ slug

/-- The identifier of an element of the inner kind that belongs to one of the kind. -/
def compositeId (system kind slug inner innerSlug : String) : String :=
  canonicalId system kind slug ++ "-" ++ inner ++ "-" ++ innerSlug

namespace Grammar

/-- Tokens of a system or a slug around the kind: none is a known kind or nested in the kind. -/
structure Plain (grammar : Grammar) (kind : String) (tokens : List String) : Prop where
  nonempty : tokens ≠ []
  token : ∀ token ∈ tokens, IsToken token
  unknown : ∀ token ∈ tokens, grammar.isKind token = false
  outside : ∀ token ∈ tokens, grammar.isNested kind token = false

section

variable {registered : List String} {kinds : KeySet} {nested : KeyMap KeySet}
variable {grammar : Grammar} {system back slug innerSlug tokens : List String}
variable {kind inner raw : String}

theorem Plain.opensKind_eq_false (plain : grammar.Plain kind tokens) {token : String}
    (member : token ∈ tokens) (before : List String) : grammar.opensKind before token = false := by
  simp [opensKind, plain.unknown token member]

/-- A known kind behind tokens that are none opens the part behind the system. -/
theorem Plain.opensKind (plain : grammar.Plain kind system) (known : grammar.isKind kind = true) :
    grammar.opensKind system.tail kind = true :=
  opensKind_of_unknown known fun token member =>
    plain.unknown token (List.mem_of_mem_tail member)

theorem Plain.lastInner?_eq_none (plain : grammar.Plain kind slug) (before : List String) :
    lastInner? grammar.opensKind before slug = none :=
  lastInner?_opensKind_eq_none plain.unknown before

/-- Behind a known kind, a kind nested in it does not open a part of its own. -/
theorem lastInner?_composite_eq_none (known : grammar.isKind kind = true)
    (plainSlug : grammar.Plain kind slug) (within : grammar.isNested kind inner = true)
    (plainInner : grammar.Plain kind innerSlug) :
    lastInner? grammar.opensKind (system ++ [kind]) (slug ++ inner :: innerSlug) = none := by
  rw [lastInner?_eq_none_iff]
  intro front item rest shape _
  have member : item ∈ slug ++ inner :: innerSlug := by simp [shape]
  rcases List.mem_append.mp member with ahead | behind
  · exact plainSlug.opensKind_eq_false ahead _
  · rcases List.mem_cons.mp behind with rfl | later
    · simp [Grammar.opensKind, known, within]
    · exact plainInner.opensKind_eq_false later _

theorem Plain.parsed_eq (plain : grammar.Plain kind slug) :
    grammar.parsed raw (joinTokens system) (kind :: slug) =
      ⟨raw, joinTokens system, kind, joinTokens slug, none⟩ := by
  obtain ⟨first, more, rfl⟩ := List.exists_cons_of_ne_nil plain.nonempty
  have none : lastInner? (fun _ token => grammar.isNested kind token) [first] more = none := by
    rw [lastInner?_eq_none_iff]
    rintro front item rest rfl _
    exact plain.outside item (by simp)
  rw [parsed, none]

theorem Plain.parsed_composite_eq (plainSlug : grammar.Plain kind slug)
    (within : grammar.isNested kind inner = true) (plainInner : grammar.Plain kind innerSlug) :
    grammar.parsed raw (joinTokens system) (kind :: (slug ++ inner :: innerSlug)) =
      ⟨raw, joinTokens system, inner, joinTokens innerSlug, some ⟨kind, joinTokens slug⟩⟩ := by
  obtain ⟨first, more, rfl⟩ := List.exists_cons_of_ne_nil plainSlug.nonempty
  have last : lastInner? (fun _ token => grammar.isNested kind token)
      ([first] ++ more ++ [inner]) innerSlug = none := by
    rw [lastInner?_eq_none_iff]
    rintro front item rest rfl _
    exact plainInner.outside item (by simp)
  have found : lastInner? (fun _ token => grammar.isNested kind token) [first]
      (more ++ inner :: innerSlug) = some ([first] ++ more, inner, innerSlug) :=
    lastInner?_eq_some plainInner.nonempty within last
  rw [List.cons_append, parsed, found]
  rfl

theorem parse?_of_split (systemNonempty : system ≠ []) (backNonempty : back ≠ [])
    (valid : ∀ token ∈ system ++ kind :: back, IsToken token)
    (made : grammar = ofSystems registered kinds nested)
    (written : raw = "cpt-" ++ joinTokens (system ++ kind :: back))
    (mode : registered = [] ∨ LongestFit registered raw (joinTokens system))
    (opens : grammar.opensKind system.tail kind = true)
    (last : lastInner? grammar.opensKind (system.tail ++ [kind]) back = none) :
    grammar.parse? raw = some (grammar.parsed raw (joinTokens system) (kind :: back)) := by
  obtain ⟨first, rest, rfl⟩ := List.exists_cons_of_ne_nil systemNonempty
  have whole : ∀ token ∈ (first :: rest) ++ kind :: back, '-' ∉ token.toList :=
    fun token member => (valid token member).2
  obtain ⟨chars, cut⟩ : ∃ chars,
      chars = joinWith '-' (((first :: rest) ++ kind :: back).map String.toList) := ⟨_, rfl⟩
  have behind : raw.toList = opening ++ chars := by
    simp [written, cut, joinTokens, opening]
  have tokens : tokensOf chars = first :: (rest ++ kind :: back) := by
    rw [cut, tokensOf_joinWith (by simp) whole]
    rfl
  have tailTokens : tokensOf (joinWith '-' ((kind :: back).map String.toList)) = kind :: back :=
    tokensOf_joinWith (by simp) fun token member =>
      whole token (List.mem_append_right _ member)
  have inferred : grammar.inferred first (rest ++ kind :: back) =
      (joinTokens (first :: rest), kind :: back) :=
    inferred_eq backNonempty opens last
  -- Only here the two modes differ: a registered system wins over what the kinds tell.
  have resolved : (grammar.registered? chars).getD (grammar.inferred first (rest ++ kind :: back)) =
      (joinTokens (first :: rest), kind :: back) := by
    rcases mode with rfl | longest
    · have none : grammar.registered? chars = none := by
        rw [made, ofSystems_nil]
        rfl
      rw [none, inferred]
      rfl
    · have fits : tailBehind? (joinTokens (first :: rest)) chars =
          some (joinWith '-' ((kind :: back).map String.toList)) :=
        cut ▸ tailBehind?_joinTokens systemNonempty backNonempty kind
      have named : joinTokens (first :: rest) ≠ "" :=
        joinTokens_ne_empty systemNonempty fun token member =>
          (valid token (List.mem_append_left _ member)).1
      rw [made, registered?_of_longestFit longest named behind fits, tailTokens]
      rfl
  have enough : ¬ ((tokensOf chars).length < 3 ∨ (tokensOf chars).contains "" = true) := by
    obtain ⟨next, more, rfl⟩ := List.exists_cons_of_ne_nil backNonempty
    rw [tokens]
    rintro (few | empty)
    · simp at few
      omega
    · exact (valid "" (by simpa using empty)).1 rfl
  rw [parse?, afterOpening?_eq_some_iff.mpr behind]
  simp only [Option.bind_some, if_neg enough]
  rw [tokens, List.headD_cons, List.tail_cons, resolved]

theorem toTokens_canonicalId (systemNonempty : system ≠ []) (slugNonempty : slug ≠ []) :
    canonicalId (joinTokens system) kind (joinTokens slug) =
      "cpt-" ++ joinTokens (system ++ kind :: slug) := by
  rw [joinTokens_append systemNonempty (by simp), joinTokens_cons slugNonempty]
  simp only [canonicalId, String.append_assoc]

theorem toTokens_compositeId (systemNonempty : system ≠ []) (slugNonempty : slug ≠ [])
    (innerNonempty : innerSlug ≠ []) :
    compositeId (joinTokens system) kind (joinTokens slug) inner (joinTokens innerSlug) =
      "cpt-" ++ joinTokens (system ++ kind :: (slug ++ inner :: innerSlug)) := by
  rw [← toTokens_canonicalId systemNonempty (by simp), joinTokens_append slugNonempty (by simp),
    joinTokens_cons innerNonempty]
  simp only [compositeId, canonicalId, String.append_assoc]

end

end Grammar

/-- An identifier made of a system, a known kind and a slug decodes to these, and one with a kind
nested in that and a second slug behind decodes to the last two within the first two: with no
registered system, and with any of which the system is the longest that fits. -/
theorem parse?_canonicalId {registered : List String} {kinds : KeySet} {nested : KeyMap KeySet}
    {grammar : Grammar} (made : grammar = .ofSystems registered kinds nested)
    {kind : String} {system slug : List String}
    (known : grammar.isKind kind = true) (single : IsToken kind)
    (plainSystem : grammar.Plain kind system) (plainSlug : grammar.Plain kind slug) :
    (∀ raw, raw = canonicalId (Grammar.joinTokens system) kind (Grammar.joinTokens slug) →
      registered = [] ∨ LongestFit registered raw (Grammar.joinTokens system) →
      grammar.parse? raw =
        some ⟨raw, Grammar.joinTokens system, kind, Grammar.joinTokens slug, none⟩) ∧
    ∀ inner innerSlug, grammar.isNested kind inner = true → IsToken inner →
      grammar.Plain kind innerSlug →
      ∀ raw, raw = compositeId (Grammar.joinTokens system) kind (Grammar.joinTokens slug) inner
          (Grammar.joinTokens innerSlug) →
        registered = [] ∨ LongestFit registered raw (Grammar.joinTokens system) →
        grammar.parse? raw =
          some ⟨raw, Grammar.joinTokens system, inner, Grammar.joinTokens innerSlug,
            some ⟨kind, Grammar.joinTokens slug⟩⟩ := by
  have opens := plainSystem.opensKind known
  constructor
  · intro raw written mode
    rw [Grammar.toTokens_canonicalId plainSystem.nonempty plainSlug.nonempty] at written
    have valid : ∀ token ∈ system ++ kind :: slug, IsToken token := by
      rw [List.forall_mem_append, List.forall_mem_cons]
      exact ⟨plainSystem.token, single, plainSlug.token⟩
    rw [Grammar.parse?_of_split plainSystem.nonempty plainSlug.nonempty valid made written mode
      opens (plainSlug.lastInner?_eq_none _), plainSlug.parsed_eq]
  · intro inner innerSlug within innerSingle plainInner raw written mode
    rw [Grammar.toTokens_compositeId plainSystem.nonempty plainSlug.nonempty plainInner.nonempty]
      at written
    have valid : ∀ token ∈ system ++ kind :: (slug ++ inner :: innerSlug), IsToken token := by
      rw [List.forall_mem_append, List.forall_mem_cons, List.forall_mem_append,
        List.forall_mem_cons]
      exact ⟨plainSystem.token, single, plainSlug.token, innerSingle, plainInner.token⟩
    rw [Grammar.parse?_of_split plainSystem.nonempty (by simp) valid made written mode opens
      (Grammar.lastInner?_composite_eq_none known plainSlug within plainInner),
      plainSlug.parsed_composite_eq within plainInner]

/-- Kinds of which algorithms are nested in features. -/
def featureGrammar (registered : List String) : Grammar :=
  .ofSystems registered (KeySet.ofList ["feature", "algo"])
    (KeyMap.ofList [("feature", KeySet.ofList ["algo"])])

/-- Both `account` and `account-server` fit, and the second is the longer one. -/
theorem parse?_accountServer :
    LongestFit ["account", "account-server", "billing"]
        "cpt-account-server-feature-billing-algo-calc" "account-server" ∧
      (featureGrammar ["account", "account-server", "billing"]).parse?
          "cpt-account-server-feature-billing-algo-calc" =
        some ⟨"cpt-account-server-feature-billing-algo-calc", "account-server", "algo", "calc",
          some ⟨"feature", "billing"⟩⟩ := by
  have longest : LongestFit ["account", "account-server", "billing"]
      "cpt-account-server-feature-billing-algo-calc" "account-server" := by
    have sizes : ∀ other ∈ ["account", "account-server", "billing"],
        other.length ≤ "account-server".length := by decide
    exact ⟨by simp, ⟨"feature-billing-algo-calc", by decide, by decide⟩,
      fun other member _ => sizes other member⟩
  have system : (featureGrammar ["account", "account-server", "billing"]).Plain "feature"
      ["account", "server"] := by
    constructor <;> decide +kernel
  have slug : (featureGrammar ["account", "account-server", "billing"]).Plain "feature"
      ["billing"] := by
    constructor <;> decide +kernel
  have innerSlug : (featureGrammar ["account", "account-server", "billing"]).Plain "feature"
      ["calc"] := by
    constructor <;> decide +kernel
  refine ⟨longest, ?_⟩
  exact (parse?_canonicalId rfl (by decide +kernel) (by decide) system slug).2 "algo" ["calc"]
    (by decide +kernel) (by decide) innerSlug _ (by decide) (.inr longest)

/-- Kinds that are no single tokens: one has a dash in it, and one is empty. -/
def looseGrammar : Grammar :=
  .ofSystems [] (KeySet.ofList ["", "fr", "non-functional"])
    (KeyMap.ofList [("fr", KeySet.ofList ["", "non-functional"])])

/-- A known kind that is no single token is not found again, nor is such a kind nested in another,
whatever plain tokens stand around it. -/
theorem parse?_looseKind :
    (∀ kind ∈ ["", "fr", "non-functional"], looseGrammar.isKind kind = true ∧
      ∀ token ∈ ["app", "login", "latency"], looseGrammar.Plain kind [token]) ∧
    (∀ inner ∈ ["", "non-functional"], looseGrammar.isNested "fr" inner = true) ∧
    looseGrammar.parse? (canonicalId "app" "non-functional" "latency") =
      some ⟨"cpt-app-non-functional-latency", "app", "non", "functional-latency", none⟩ ∧
    looseGrammar.parse? (canonicalId "app" "" "latency") = none ∧
    looseGrammar.parse? (compositeId "app" "fr" "login" "non-functional" "latency") =
      some ⟨"cpt-app-fr-login-non-functional-latency", "app", "fr", "login-non-functional-latency",
        none⟩ ∧
    looseGrammar.parse? (compositeId "app" "fr" "login" "" "latency") = none := by
  have plain (kind token : String) (single : IsToken token)
      (unknown : looseGrammar.isKind token = false)
      (outside : looseGrammar.isNested kind token = false) : looseGrammar.Plain kind [token] :=
    ⟨by simp, by simpa using single, by simpa using unknown, by simpa using outside⟩
  have tokens : ∀ kind ∈ ["", "fr", "non-functional"], looseGrammar.isKind kind = true ∧
      ∀ token ∈ ["app", "login", "latency"], IsToken token ∧
        looseGrammar.isKind token = false ∧ looseGrammar.isNested kind token = false := by
    decide +kernel
  refine ⟨?_, by decide +kernel, ?_⟩
  · intro kind member
    obtain ⟨known, around⟩ := tokens kind member
    refine ⟨known, fun token inside => ?_⟩
    obtain ⟨single, unknown, outside⟩ := around token inside
    exact plain kind token single unknown outside
  · rw [looseGrammar, Grammar.ofSystems_nil]
    decide +kernel

end DocContract.Identifier
