import DocContract.Proofs.Pathname.Order
import DocContract.Schema.Compile

/-!
The arrangement of the blueprints does not matter: sorting them by path leaves one order, so that
the schema, or the first fault, is the same for all of them.
-/

namespace DocContract

/-- Blueprints at one path are the same blueprint.  Paths are the same if their steps are. -/
def OnePerPath (blueprints : List Blueprint) : Prop :=
  ∀ first ∈ blueprints, ∀ second ∈ blueprints,
    Pathname.steps first.path = Pathname.steps second.path → first = second

namespace Compile

variable {blueprints others : List Blueprint} {blueprint : Blueprint}

theorem pairwise_ordered (blueprints : List Blueprint) :
    (ordered blueprints).Pairwise fun first second =>
      Pathname.le first.path second.path = true := by
  apply List.pairwise_mergeSort
  · intro first second third earlier later
    exact Pathname.le_trans earlier later
  · intro first second
    simpa using Pathname.le_total first.path second.path

theorem ordered_perm (blueprints : List Blueprint) :
    (ordered blueprints).Perm (blueprints.filter fun blueprint => !blueprint.codebase) :=
  List.mergeSort_perm _ _

theorem mem_ordered_iff :
    blueprint ∈ ordered blueprints ↔ blueprint ∈ blueprints ∧ blueprint.codebase = false := by
  simp [(ordered_perm blueprints).mem_iff]

theorem ordered_eq_of_perm (perm : blueprints.Perm others) (unique : OnePerPath blueprints) :
    ordered blueprints = ordered others := by
  have rearranged : (ordered blueprints).Perm (ordered others) :=
    (ordered_perm blueprints).trans
      ((perm.filter _).trans (ordered_perm others).symm)
  refine List.Perm.eq_of_pairwise ?_ (pairwise_ordered blueprints) (pairwise_ordered others)
    rearranged
  intro first second member other earlier later
  exact unique first (mem_ordered_iff.mp member).1
    second (mem_ordered_iff.mp (rearranged.mem_iff.mpr other)).1
    (Pathname.steps_eq_of_le earlier later)

end Compile

/-- However the blueprints are arranged, the outcome is one and the same: the fault, or the schema
with its digest and its text. -/
theorem compile_eq_of_perm {blueprints others : List Blueprint} (perm : blueprints.Perm others)
    (unique : OnePerPath blueprints) :
    Schema.compile blueprints = Schema.compile others ∧
      (Schema.compile blueprints).map Schema.digest = (Schema.compile others).map Schema.digest ∧
      (Schema.compile blueprints).map Schema.render =
        (Schema.compile others).map Schema.render := by
  have same : Schema.compile blueprints = Schema.compile others := by
    simp only [Schema.compile, Compile.ordered_eq_of_perm perm unique]
  exact ⟨same, by rw [same], by rw [same]⟩

def scopeBlueprint (path : String) (line : Nat) : Blueprint where
  path
  markers := [⟨.heading { id := some "scope" }, [], none, line, line + 4⟩]
  artifactKind := "PRD"
  header := { artifact := some "PRD" }
  codebase := false
  problems := []

/-- The steps of a path count and not its characters: the blueprint in `kits/a` is the first, so the
heading in `kits/a-b` is the repeated one, whichever of the two is given first. -/
theorem compile_eq_of_swap :
    OnePerPath [scopeBlueprint "kits/a-b/PRD.md" 7, scopeBlueprint "kits/a/PRD.md" 12] ∧
      Schema.compile [scopeBlueprint "kits/a/PRD.md" 12, scopeBlueprint "kits/a-b/PRD.md" 7] =
        .error (.duplicateHeading "PRD" "scope" "kits/a-b/PRD.md" 7) ∧
      Schema.compile [scopeBlueprint "kits/a-b/PRD.md" 7, scopeBlueprint "kits/a/PRD.md" 12] =
        .error (.duplicateHeading "PRD" "scope" "kits/a-b/PRD.md" 7) := by
  let early := scopeBlueprint "kits/a/PRD.md" 12
  let late := scopeBlueprint "kits/a-b/PRD.md" 7
  have distinct : Pathname.steps late.path ≠ Pathname.steps early.path := by decide +kernel
  have unique : OnePerPath [late, early] := by
    simp [OnePerPath, distinct, distinct.symm]
  have inOrder : Pathname.le early.path late.path = true := by decide +kernel
  have kept : Compile.ordered [early, late] = [early, late] :=
    List.mergeSort_of_pairwise (by simpa [early, late, scopeBlueprint] using inOrder)
  have clash : Compile.firstClash? [] (Compile.headingEntries [early, late]) =
      some ⟨"PRD", late.path, 7,
        ⟨"scope", 2, none, none, true, .allowed, .allowed, none, none⟩⟩ := by
    decide +kernel
  have sorted : Schema.compile [early, late] =
      .error (.duplicateHeading "PRD" "scope" late.path 7) := by
    simp only [Schema.compile, kept, clash]
  exact ⟨unique, sorted, (compile_eq_of_perm (List.Perm.swap _ _ _) unique).1.trans sorted⟩

end DocContract
