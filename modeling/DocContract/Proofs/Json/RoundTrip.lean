import DocContract.Proofs.Json.Spelling

namespace DocContract.Json

/-- A value in which every number is an integer of 64 bits. -/
inductive Exact : Json → Prop where
  | scalar {value : Json} (exact : ExactScalar value) : Exact value
  | array (items : List Json) (exact : ∀ item ∈ items, Exact item) : Exact (.array items)
  | object (members : List (String × Json)) (exact : ∀ member ∈ members, Exact member.2) :
      Exact (.object members)

variable {value : Json} {items : List Json} {members : List (String × Json)} {depth outer : Nat}

theorem compactChars_scalar (exact : ExactScalar value) :
    compactChars value = scalarChars value := by
  cases exact <;> rw [compactChars] <;> simp

theorem spells_compactItems (nonempty : items ≠ [])
    (each : ∀ item ∈ items, Spells item (compactChars item)) :
    SpellsItems items (compactItems items ++ [']']) := by
  induction items with
  | nil => exact absurd rfl nonempty
  | cons item more ih =>
    have spells := each item List.mem_cons_self
    cases more with
    | nil => simpa [compactItems] using SpellsItems.last .nil spells .nil
    | cons next remaining =>
      have others := ih (by simp) fun other member => each other (List.mem_cons_of_mem _ member)
      simpa [compactItems] using SpellsItems.comma .nil spells .nil others

theorem spells_compactMembers (nonempty : members ≠ [])
    (each : ∀ member ∈ members, Spells member.2 (compactChars member.2)) :
    SpellsMembers members (compactMembers members ++ ['}']) := by
  induction members with
  | nil => exact absurd rfl nonempty
  | cons member more ih =>
    have spells := each member List.mem_cons_self
    cases more with
    | nil => simpa [compactMembers] using SpellsMembers.last .nil .nil spells .nil
    | cons next remaining =>
      have others := ih (by simp) fun other member => each other (List.mem_cons_of_mem _ member)
      simpa [compactMembers] using SpellsMembers.comma .nil .nil spells .nil others

theorem spells_compactChars (exact : Exact value) : Spells value (compactChars value) := by
  induction exact with
  | scalar exact => exact compactChars_scalar exact ▸ .scalar exact
  | array items exact each =>
    cases items with
    | nil => exact .emptyArray .nil
    | cons => exact .array (spells_compactItems (by simp) each)
  | object members exact each =>
    cases members with
    | nil => exact .emptyObject .nil
    | cons => exact .object (spells_compactMembers (by simp) each)

theorem blanks_lineBreak (depth : Nat) : Blanks (lineBreak depth) := by
  intro c member
  rcases List.mem_cons.mp member with rfl | space
  · rfl
  · rw [List.eq_of_mem_replicate space]
    rfl

theorem indentedChars_scalar (exact : ExactScalar value) (depth : Nat) :
    indentedChars depth value = scalarChars value := by
  cases exact <;> rw [indentedChars] <;> simp

theorem spells_indentedItems (nonempty : items ≠ [])
    (each : ∀ item ∈ items, Spells item (indentedChars depth item)) :
    SpellsItems items (indentedItems depth items ++ (lineBreak outer ++ [']'])) := by
  induction items with
  | nil => exact absurd rfl nonempty
  | cons item more ih =>
    have spells := each item List.mem_cons_self
    cases more with
    | nil =>
      simpa [indentedItems] using
        SpellsItems.last (blanks_lineBreak depth) spells (blanks_lineBreak outer)
    | cons next remaining =>
      have others := ih (by simp) fun other member => each other (List.mem_cons_of_mem _ member)
      simpa [indentedItems] using SpellsItems.comma (blanks_lineBreak depth) spells .nil others

theorem spells_indentedMembers (nonempty : members ≠ [])
    (each : ∀ member ∈ members, Spells member.2 (indentedChars depth member.2)) :
    SpellsMembers members (indentedMembers depth members ++ (lineBreak outer ++ ['}'])) := by
  have space : Blanks [' '] := List.forall_mem_singleton.mpr rfl
  induction members with
  | nil => exact absurd rfl nonempty
  | cons member more ih =>
    have spells := each member List.mem_cons_self
    cases more with
    | nil =>
      simpa [indentedMembers] using
        SpellsMembers.last (blanks_lineBreak depth) space spells (blanks_lineBreak outer)
    | cons next remaining =>
      have others := ih (by simp) fun other member => each other (List.mem_cons_of_mem _ member)
      simpa [indentedMembers] using
        SpellsMembers.comma (blanks_lineBreak depth) space spells .nil others

theorem spells_indentedChars (exact : Exact value) (depth : Nat) :
    Spells value (indentedChars depth value) := by
  induction exact generalizing depth with
  | scalar exact => exact indentedChars_scalar exact depth ▸ .scalar exact
  | array items exact each =>
    cases items with
    | nil => exact .emptyArray .nil
    | cons item more =>
      rw [indentedChars]
      simpa using Spells.array
        (spells_indentedItems (by simp) fun item member => each item member (depth + 1))
  | object members exact each =>
    cases members with
    | nil => exact .emptyObject .nil
    | cons member more =>
      rw [indentedChars]
      simpa using Spells.object
        (spells_indentedMembers (by simp) fun member inside => each member inside (depth + 1))

/-- Compact text is read as the value that it was written for. -/
theorem parse?_compact (exact : Exact value) : parse? value.compact = some value := by
  simpa [compact] using parse?_of_spells (spells_compactChars exact) .nil

/-- Indented text, with a line feed behind it, is read as the value that it was written for. -/
theorem parse?_indented (exact : Exact value) : parse? (value.indented ++ "\n") = some value := by
  have lineEnd : Blanks ['\n'] := List.forall_mem_singleton.mpr rfl
  simpa [indented] using parse?_of_spells (spells_indentedChars exact 0) lineEnd

end DocContract.Json
