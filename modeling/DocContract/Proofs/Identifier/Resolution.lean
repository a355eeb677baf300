import DocContract.Proofs.Identifier.Canonical

namespace DocContract.Identifier

open DocContract.Sorted DocContract.Text

namespace Grammar

variable {registered : List String} {kinds : KeySet} {nested : KeyMap KeySet}
variable {grammar : Grammar} {system kind slug raw : String} {parsed : Parsed}

theorem parsed_raw (system : String) (tail : List String) :
    (grammar.parsed raw system tail).raw = raw := by
  unfold Grammar.parsed
  split
  · rfl
  · rfl
  · split <;> rfl

theorem parsed_system (system : String) (tail : List String) :
    (grammar.parsed raw system tail).system = system := by
  unfold Grammar.parsed
  split
  · rfl
  · rfl
  · split <;> rfl

/-- The system of an identifier and the tokens behind it: as registered, or else by the kinds. -/
def resolved (grammar : Grammar) (chars : List Char) : String × List String :=
  (grammar.registered? chars).getD
    (grammar.inferred ((tokensOf chars).headD "") (tokensOf chars).tail)

theorem parse?_eq_some_iff :
    grammar.parse? raw = some parsed ↔
      ∃ chars, raw.toList = opening ++ chars ∧ 3 ≤ (tokensOf chars).length ∧
        "" ∉ tokensOf chars ∧
        parsed = grammar.parsed raw (grammar.resolved chars).1 (grammar.resolved chars).2 := by
  rw [parse?, Option.bind_eq_some_iff]
  refine exists_congr fun chars => and_congr afterOpening?_eq_some_iff ?_
  by_cases enough : (tokensOf chars).length < 3 ∨ (tokensOf chars).contains "" = true
  · simp only [if_pos enough, reduceCtorEq, false_iff]
    rintro ⟨many, filled, _⟩
    rcases enough with few | empty
    · exact absurd few (Nat.not_lt.mpr many)
    · exact filled (List.contains_iff_mem.mp empty)
  · simp only [if_neg enough, Option.some.injEq]
    rw [not_or, List.contains_iff_mem, Nat.not_lt] at enough
    exact ⟨fun same => ⟨enough.1, enough.2, same.symm⟩, fun held => held.2.2.symm⟩

theorem fits_canonicalId (system kind slug : String) :
    Fits system (canonicalId system kind slug) := by
  refine ⟨kind ++ "-" ++ slug, ?_, by simp⟩
  simp only [canonicalId, String.append_assoc]

/-- Where no kind stands among the tokens of the system and the slug, the system is resolved to if
it is registered and the longest that fits, or if none is that fits and the kind is one token. -/
theorem system_of_parse? (made : grammar = .ofSystems registered kinds nested)
    (known : grammar.isKind kind = true)
    (plainSystem : ∀ token ∈ tokensOf system.toList, grammar.isKind token = false)
    (plainSlug : ∀ token ∈ tokensOf slug.toList, grammar.isKind token = false)
    (written : raw = canonicalId system kind slug)
    (mode : LongestFit registered raw system ∨
      '-' ∉ kind.toList ∧ ∀ other ∈ registered, ¬ Fits other raw)
    (found : grammar.parse? raw = some parsed) : parsed.system = system := by
  obtain ⟨chars, behind, _, filled, rfl⟩ := parse?_eq_some_iff.mp found
  rw [parsed_system, resolved]
  have cut : chars = system.toList ++ '-' :: (kind.toList ++ '-' :: slug.toList) := by
    have letters : raw.toList = opening ++ (system.toList ++ '-' ::
        (kind.toList ++ '-' :: slug.toList)) := by
      simp [written, canonicalId, opening]
    exact List.append_cancel_left (behind.symm.trans letters)
  rcases mode with longest | ⟨single, unfit⟩
  · have named : system ≠ "" := by
      rintro rfl
      exact filled (cut ▸ by simp [tokensOf, splitAt])
    have fits : tailBehind? system chars = some (kind.toList ++ '-' :: slug.toList) :=
      tailBehind?_eq_some_iff.mpr ⟨cut, by simp⟩
    rw [made, registered?_of_longestFit longest named behind fits]
    rfl
  · -- No registered system fits, so the kind is what ends the system.
    obtain ⟨first, front, tokens⟩ := List.exists_cons_of_ne_nil (tokensOf_ne_nil system.toList)
    have one : tokensOf kind.toList = [kind] := by
      rw [tokensOf, splitAt_of_not_mem single, List.map_singleton, String.ofList_toList]
    have all : tokensOf chars = first :: (front ++ kind :: tokensOf slug.toList) := by
      rw [cut, tokensOf_append, tokensOf_append, tokens, one]
      rfl
    have ahead : ∀ token ∈ front, grammar.isKind token = false := fun token member =>
      plainSystem token (tokens ▸ List.mem_cons_of_mem _ member)
    have inferred : grammar.inferred first (front ++ kind :: tokensOf slug.toList) =
        (joinTokens (first :: front), kind :: tokensOf slug.toList) :=
      inferred_eq (tokensOf_ne_nil _) (opensKind_of_unknown known ahead)
        (lastInner?_opensKind_eq_none plainSlug _)
    rw [all, List.headD_cons, List.tail_cons, inferred, ← tokens, joinTokens_tokensOf]
    rw [made, registered?_eq_none unfit behind]
    rfl

end Grammar

end DocContract.Identifier
