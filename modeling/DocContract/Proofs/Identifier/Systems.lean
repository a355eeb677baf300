import DocContract.Identifier.Grammar
import DocContract.Proofs.Sorted.Lookup
import DocContract.Proofs.Text.Split

/-!
Where the system of an identifier ends: behind the longest registered system that fits, or in front
of the last known kind that is not nested in an earlier one.
-/

namespace DocContract.Identifier

open DocContract.Sorted DocContract.Text

/-- The identifier starts with the system, with a dash and a tail that has a dash in it behind. -/
def Fits (system raw : String) : Prop :=
  ∃ tail : String, raw = "cpt-" ++ system ++ "-" ++ tail ∧ '-' ∈ tail.toList

/-- No registered system that fits is longer than this one. -/
structure LongestFit (registered : List String) (raw system : String) : Prop where
  member : system ∈ registered
  fits : Fits system raw
  longest : ∀ other ∈ registered, Fits other raw → other.length ≤ system.length

namespace Grammar

section

variable {accepts : List α → α → Bool} {before front back items : List α} {item : α}

theorem lastInner?_eq_none_iff :
    lastInner? accepts before items = none ↔
      ∀ front item back, items = front ++ item :: back → back ≠ [] →
        accepts (before ++ front) item = false := by
  induction items generalizing before with
  | nil => simp [lastInner?]
  | cons first rest ih =>
    cases rest with
    | nil =>
      simp only [lastInner?, true_iff]
      intro front item back shape inner
      cases front with
      | nil =>
        obtain ⟨_, rfl⟩ := List.cons_eq_cons.mp shape
        exact absurd rfl inner
      | cons other more => simp at shape
    | cons next more =>
      rw [lastInner?, Option.or_eq_none_iff, ih]
      constructor
      · rintro ⟨later, own⟩ front item back shape inner
        cases front with
        | nil =>
          obtain ⟨rfl, _⟩ := List.cons_eq_cons.mp shape
          simpa using own
        | cons other remaining =>
          obtain ⟨rfl, behind⟩ := List.cons_eq_cons.mp shape
          simpa using later remaining item back behind inner
      · intro refused
        refine ⟨?_, ?_⟩
        · intro front item back shape inner
          simpa using refused (first :: front) item back (by rw [shape]; rfl) inner
        · simpa using refused [] first (next :: more) rfl (List.cons_ne_nil _ _)

theorem lastInner?_eq_some (inner : back ≠ []) (accepted : accepts (before ++ front) item = true)
    (last : lastInner? accepts (before ++ front ++ [item]) back = none) :
    lastInner? accepts before (front ++ item :: back) = some (before ++ front, item, back) := by
  induction front generalizing before with
  | nil =>
    obtain ⟨next, more, rfl⟩ := List.exists_cons_of_ne_nil inner
    rw [List.append_nil] at accepted last ⊢
    rw [List.nil_append, lastInner?, last, accepted]
    rfl
  | cons first rest ih =>
    have shifted := @ih (before ++ [first]) (by simpa using accepted) (by simpa using last)
    obtain ⟨next, more, shape⟩ : ∃ next more, rest ++ item :: back = next :: more :=
      List.exists_cons_of_ne_nil (by simp)
    rw [shape] at shifted
    rw [List.cons_append, shape, lastInner?, shifted]
    simp

/-- The last accepted member with another one behind it is found, and what stands around it. -/
theorem lastInner?_eq_some_iff {shown : List α} :
    lastInner? accepts before items = some (shown, item, back) ↔
      ∃ front, shown = before ++ front ∧ items = front ++ item :: back ∧ back ≠ [] ∧
        accepts shown item = true ∧ lastInner? accepts (shown ++ [item]) back = none := by
  constructor
  · intro found
    induction items generalizing before with
    | nil => cases found
    | cons first rest ih =>
      cases rest with
      | nil => cases found
      | cons next more =>
        rw [lastInner?] at found
        rcases Option.or_eq_some_iff.mp found with later | ⟨missing, own⟩
        · obtain ⟨front, rfl, shape, inner, accepted, last⟩ := ih later
          exact ⟨first :: front, by simp, by rw [shape]; rfl, inner, accepted, last⟩
        · obtain ⟨accepted, here⟩ := Option.ite_none_right_eq_some.mp own
          cases here
          exact ⟨[], by simp, rfl, List.cons_ne_nil _ _, accepted, missing⟩
  · rintro ⟨front, rfl, rfl, inner, accepted, last⟩
    exact lastInner?_eq_some inner accepted last

end

theorem tokensOf_joinWith {tokens : List String} (nonempty : tokens ≠ [])
    (whole : ∀ token ∈ tokens, '-' ∉ token.toList) :
    tokensOf (joinWith '-' (tokens.map String.toList)) = tokens := by
  rw [tokensOf, splitAt_joinWith (by simpa using nonempty) (by simpa using whole), List.map_map]
  simp [Function.comp_def]

theorem tokensOf_append (before after : List Char) :
    tokensOf (before ++ '-' :: after) = tokensOf before ++ tokensOf after := by
  rw [tokensOf, splitAt_append, List.map_append, tokensOf, tokensOf]

theorem tokensOf_ne_nil (chars : List Char) : tokensOf chars ≠ [] := by
  rw [tokensOf, Ne, List.map_eq_nil_iff]
  exact splitAt_ne_nil

theorem joinTokens_tokensOf (text : String) : joinTokens (tokensOf text.toList) = text := by
  have letters : String.toList ∘ String.ofList = id := funext fun _ => String.toList_ofList
  rw [joinTokens, tokensOf, List.map_map, letters, List.map_id, joinWith_splitAt,
    String.ofList_toList]

theorem joinTokens_append {front back : List String} (nonempty : front ≠ []) (more : back ≠ []) :
    joinTokens (front ++ back) = joinTokens front ++ "-" ++ joinTokens back := by
  rw [joinTokens, List.map_append, joinWith_append (by simpa using nonempty) (by simpa using more)]
  apply String.toList_inj.mp
  simp [joinTokens]

@[simp]
theorem joinTokens_singleton (token : String) : joinTokens [token] = token := by
  simp [joinTokens, joinWith]

theorem joinTokens_cons {tokens : List String} (nonempty : tokens ≠ []) (first : String) :
    joinTokens (first :: tokens) = first ++ "-" ++ joinTokens tokens := by
  rw [← List.singleton_append, joinTokens_append (List.cons_ne_nil _ _) nonempty,
    joinTokens_singleton]

/-- Tokens may be joined to one before they are joined with those around them. -/
theorem joinTokens_group {group : List String} (nonempty : group ≠ []) (front back : List String) :
    joinTokens (front ++ joinTokens group :: back) = joinTokens (front ++ (group ++ back)) := by
  induction front with
  | nil =>
    rw [List.nil_append, List.nil_append]
    by_cases more : back = []
    · rw [more, joinTokens_singleton, List.append_nil]
    · rw [joinTokens_cons more, joinTokens_append nonempty more]
  | cons first rest ih =>
    rw [List.cons_append, List.cons_append, joinTokens_cons (by simp), ih,
      joinTokens_cons (by simp [nonempty])]

theorem intercalate_eq_joinTokens (tokens : List String) :
    "-".intercalate tokens = joinTokens tokens := by
  induction tokens with
  | nil => rfl
  | cons first rest ih =>
    cases rest with
    | nil => rw [String.intercalate_singleton, joinTokens_singleton]
    | cons next more =>
      rw [String.intercalate_cons_cons, ih, joinTokens_cons (List.cons_ne_nil _ _)]

theorem joinTokens_ne_empty {tokens : List String} (nonempty : tokens ≠ [])
    (filled : ∀ token ∈ tokens, token ≠ "") : joinTokens tokens ≠ "" := by
  obtain ⟨first, more, rfl⟩ := List.exists_cons_of_ne_nil nonempty
  have letters : first.toList ≠ [] := by
    simpa using filled first List.mem_cons_self
  intro empty
  have none : (joinTokens (first :: more)).toList = [] := by
    rw [empty]
    rfl
  cases more <;> simp_all [joinTokens, joinWith]

section

variable {registered : List String} {kinds : KeySet} {nested : KeyMap KeySet}
variable {system other raw : String} {chars tail : List Char}

theorem tailBehind?_eq_some_iff :
    tailBehind? system chars = some tail ↔ chars = system.toList ++ '-' :: tail ∧ '-' ∈ tail := by
  simp [tailBehind?, Option.filter_eq_some_iff, afterOpening?_eq_some_iff]

theorem tailBehind?_joinTokens {front back : List String} (nonempty : front ≠ [])
    (more : back ≠ []) (first : String) :
    tailBehind? (joinTokens front) (joinWith '-' ((front ++ first :: back).map String.toList)) =
      some (joinWith '-' ((first :: back).map String.toList)) := by
  rw [tailBehind?_eq_some_iff, List.map_append,
    joinWith_append (by simpa using nonempty) (by simp)]
  refine ⟨by simp [joinTokens], ?_⟩
  rw [List.map_cons, joinWith_cons (by simpa using more)]
  simp

theorem fits_iff (behind : raw.toList = opening ++ chars) :
    Fits system raw ↔ ∃ tail, tailBehind? system chars = some tail := by
  simp only [tailBehind?_eq_some_iff, Fits]
  constructor
  · rintro ⟨tail, rfl, inner⟩
    refine ⟨tail.toList, ?_, inner⟩
    simpa [opening] using behind.symm
  · rintro ⟨tail, rfl, inner⟩
    refine ⟨String.ofList tail, ?_, by simpa using inner⟩
    apply String.toList_inj.mp
    simp [behind, opening]

/-- Of two systems that an identifier starts with, those of one length are the same. -/
theorem eq_of_tailBehind? {others : List Char} (fits : tailBehind? system chars = some tail)
    (also : tailBehind? other chars = some others) (same : system.length = other.length) :
    system = other := by
  obtain ⟨rfl, _⟩ := tailBehind?_eq_some_iff.mp fits
  obtain ⟨shape, _⟩ := tailBehind?_eq_some_iff.mp also
  have sizes : system.toList.length = other.toList.length := by
    rw [String.length_toList, String.length_toList, same]
  exact String.toList_inj.mp (List.append_inj_left shape sizes)

theorem eq_of_fits (fits : Fits system raw) (also : Fits other raw)
    (same : system.length = other.length) : system = other := by
  obtain ⟨tail, written, inner⟩ := fits
  have behind : raw.toList = opening ++ (system.toList ++ '-' :: tail.toList) := by
    simp [written, opening]
  obtain ⟨others, found⟩ := (fits_iff behind).mp also
  exact eq_of_tailBehind? (tailBehind?_eq_some_iff.mpr ⟨rfl, inner⟩) found same

theorem mem_systems_iff :
    system ∈ (ofSystems registered kinds nested).systems ↔ system ∈ registered ∧ system ≠ "" := by
  simp [ofSystems, KeySet.mem_ofList]

theorem pairwise_systems :
    (ofSystems registered kinds nested).systems.Pairwise fun first second =>
      second.length ≤ first.length := by
  have sorted : (ofSystems registered kinds nested).systems.Pairwise fun first second =>
      decide (second.length ≤ first.length) = true := by
    apply List.pairwise_mergeSort
    · intro first second third earlier later
      simp only [decide_eq_true_eq] at earlier later ⊢
      exact Nat.le_trans later earlier
    · intro first second
      simpa using Nat.le_total second.length first.length
  simpa using sorted

/-- The systems are tried from the longest on, so the first that fits is the longest. -/
theorem longestFit_of_registered? {tokens : List String} (behind : raw.toList = opening ++ chars)
    (found : (ofSystems registered kinds nested).registered? chars = some (system, tokens)) :
    system ≠ "" ∧ LongestFit registered raw system ∧
      ∃ tail, tailBehind? system chars = some tail ∧ tokens = tokensOf tail := by
  obtain ⟨longer, own, shorter, order, hit, missed⟩ := List.findSome?_eq_some_iff.mp found
  obtain ⟨tail, fits, same⟩ := Option.map_eq_some_iff.mp hit
  obtain ⟨rfl, rfl⟩ := Prod.mk.inj same
  have sorted : (ofSystems registered kinds nested).systems.Pairwise fun first second =>
      second.length ≤ first.length := pairwise_systems
  rw [order] at sorted
  have listed : own ∈ (ofSystems registered kinds nested).systems := by simp [order]
  obtain ⟨member, named⟩ := mem_systems_iff.mp listed
  refine ⟨named, ⟨member, (fits_iff behind).mpr ⟨tail, fits⟩, ?_⟩, tail, fits, rfl⟩
  intro other also otherFits
  by_cases empty : other = ""
  · rw [empty]
    exact Nat.zero_le _
  have held : other ∈ (ofSystems registered kinds nested).systems :=
    mem_systems_iff.mpr ⟨also, empty⟩
  rw [order] at held
  rcases List.mem_append.mp held with ahead | later
  · obtain ⟨others, located⟩ := (fits_iff behind).mp otherFits
    have refused := missed other ahead
    simp [located] at refused
  · rcases List.mem_cons.mp later with rfl | remaining
    · exact Nat.le_refl _
    · exact List.rel_of_pairwise_cons (List.pairwise_append.mp sorted).2.1 remaining

theorem isSome_registered? (listed : system ∈ registered) (named : system ≠ "")
    (fits : Fits system raw) (behind : raw.toList = opening ++ chars) :
    ((ofSystems registered kinds nested).registered? chars).isSome = true := by
  obtain ⟨tail, located⟩ := (fits_iff behind).mp fits
  refine List.findSome?_isSome_iff.mpr ⟨system, mem_systems_iff.mpr ⟨listed, named⟩, ?_⟩
  rw [located]
  rfl

theorem registered?_of_longestFit (longest : LongestFit registered raw system)
    (named : system ≠ "") (behind : raw.toList = opening ++ chars)
    (fits : tailBehind? system chars = some tail) :
    (ofSystems registered kinds nested).registered? chars = some (system, tokensOf tail) := by
  have some : ((ofSystems registered kinds nested).registered? chars).isSome = true :=
    isSome_registered? longest.member named longest.fits behind
  obtain ⟨⟨other, tokens⟩, found⟩ := Option.isSome_iff_exists.mp some
  obtain ⟨_, first, others, also, rfl⟩ := longestFit_of_registered? behind found
  have same : system.length = other.length :=
    Nat.le_antisymm (first.longest system longest.member longest.fits)
      (longest.longest other first.member first.fits)
  obtain rfl := eq_of_tailBehind? fits also same
  rw [found, Option.some.inj (fits.symm.trans also)]

theorem registered?_eq_none (unfit : ∀ other ∈ registered, ¬ Fits other raw)
    (behind : raw.toList = opening ++ chars) :
    (ofSystems registered kinds nested).registered? chars = none := by
  refine List.findSome?_eq_none_iff.mpr fun system listed => ?_
  have alone := unfit system (mem_systems_iff.mp listed).1
  rw [fits_iff behind] at alone
  cases found : tailBehind? system chars with
  | none => rfl
  | some tail => exact absurd ⟨tail, found⟩ alone

theorem ofSystems_nil : ofSystems [] kinds nested = ⟨[], kinds, nested⟩ := by
  have none : (KeySet.ofList (([] : List String).filter (· ≠ ""))).members = [] := rfl
  rw [ofSystems, none, List.mergeSort_nil]

end

/-- Whether a kind stands behind the tokens and is not nested in one of them. -/
def opensKind (grammar : Grammar) (before : List String) (token : String) : Bool :=
  grammar.isKind token &&
    !(before.any fun outer => grammar.isKind outer && grammar.isNested outer token)

variable {grammar : Grammar} {front back tokens : List String} {first kind : String}

theorem opensKind_of_unknown (known : grammar.isKind kind = true)
    (unknown : ∀ token ∈ tokens, grammar.isKind token = false) :
    grammar.opensKind tokens kind = true := by
  simp +contextual [opensKind, known, unknown]

theorem lastInner?_opensKind_eq_none (unknown : ∀ token ∈ tokens, grammar.isKind token = false)
    (before : List String) : lastInner? grammar.opensKind before tokens = none := by
  rw [lastInner?_eq_none_iff]
  rintro front item rest rfl _
  simp [opensKind, unknown item (by simp)]

theorem inferred_eq (inner : back ≠ []) (opens : grammar.opensKind front kind = true)
    (last : lastInner? grammar.opensKind (front ++ [kind]) back = none) :
    grammar.inferred first (front ++ kind :: back) =
      (joinTokens (first :: front), kind :: back) := by
  have found : lastInner? grammar.opensKind [] (front ++ kind :: back) = some (front, kind, back) :=
    lastInner?_eq_some inner opens last
  rw [inferred]
  split
  · next located =>
    cases found.symm.trans located
    rfl
  · next missing => cases found.symm.trans missing

end Grammar

end DocContract.Identifier
